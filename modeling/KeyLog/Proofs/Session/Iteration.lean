import KeyLog.Proofs.Session.Calls
import KeyLog.Proofs.Session.Listed

/-!
# Iteration through the C interface

A cursor of the C interface hands out texts that end at their first NUL byte, and a log from
elsewhere may have keys with one.  Such a key cannot be handed out.  It is reported and passed over,
and neither ends the iteration nor is reported again.

The proof follows the keys that are still pending.  A call that asks the cursor takes the first of
them, whether it can be handed out or not, and every other step leaves them.  So what the calls
return is read off the keys that the store had when the cursor was made (`Session.reports`), however
the calls stand among other steps.  Those keys in turn are the keys of the records that were there
when the store was opened, and those that were set since.

* `Session.step_fetches`, `Session.step_spares`: what one step does to a cursor.
* `Session.run_fetches`: what the calls of a run return.
* `Session.step_keys`, `Session.run_keys`: which keys a store of the C interface has.
* `Session.iteration_delivers_live_keys`: both together.
-/

namespace KeyLog

/-- A `set` that fails leaves the index, and one that succeeds inserts its key. -/
theorem Store.set_index_cases (medium : Medium) (volume : Volume) (store : Store)
    (key value : String) :
    (∃ error, (store.set medium volume key value).1 = .error error ∧
        (store.set medium volume key value).2.1.index = store.index) ∨
      ∃ span, (store.set medium volume key value).1 = .ok () ∧
        (store.set medium volume key value).2.1.index = store.index.insert key span := by
  unfold Store.set
  split
  next error _ => exact .inl ⟨error, rfl, rfl⟩
  next record _ =>
    split
    next error file volume _ => exact .inl ⟨error, rfl, rfl⟩
    next span file volume _ => exact .inr ⟨span, rfl, rfl⟩

/-- A call that sets a key inserts it into the index if it returns success, and otherwise leaves the
index. -/
theorem Foreign.set_index_cases (medium : Medium) (volume : Volume) (store : Store)
    (pointer pointer' : Option Bytes) :
    ∃ status later after, set medium volume (some store) pointer pointer' =
        (status, some later, after) ∧
      (status ≠ .ok ∧ later.index = store.index ∨
        status = .ok ∧ ∃ key span, Reads pointer key ∧
          later.index = store.index.insert key span) := by
  unfold set
  dsimp only
  split
  next refusal hpointer =>
    exact ⟨refusal, store, volume, rfl, .inl ⟨argument_ne_ok hpointer, rfl⟩⟩
  next key hpointer =>
    split
    next refusal hpointer' =>
      exact ⟨refusal, store, volume, rfl, .inl ⟨argument_ne_ok hpointer', rfl⟩⟩
    next value _ =>
      have hcases := store.set_index_cases medium volume key value
      split
      next error later after hset =>
        rw [hset] at hcases
        obtain ⟨_, -, hindex⟩ | ⟨span, hok, -⟩ := hcases
        · exact ⟨_, later, after, rfl, .inl ⟨by simp, hindex⟩⟩
        · cases hok
      next later after hset =>
        rw [hset] at hcases
        obtain ⟨error, herror, -⟩ | ⟨span, -, hindex⟩ := hcases
        · cases herror
        · exact ⟨_, later, after, rfl,
            .inr ⟨rfl, key, span, argument_eq_ok_iff.1 hpointer, hindex⟩⟩

/-- A look-up through a handle leaves the index. -/
theorem Foreign.get_index (volume : Volume) (store : Store) (pointer : Option Bytes)
    (place : Bool) :
    ∃ later, (get volume (some store) pointer place).2.2 = some later ∧
      later.index = store.index := by
  cases place with
  | false => exact ⟨store, rfl, rfl⟩
  | true =>
    simp only [get]
    split
    · exact ⟨store, rfl, rfl⟩
    next key _ =>
      obtain ⟨position, hmoved⟩ := store.get_snd volume key
      have hindex : (store.get volume key).2.index = store.index := by rw [hmoved]
      refine ⟨(store.get volume key).2, ?_, hindex⟩
      cases store.get volume key with
      | mk result later => cases result <;> rfl

namespace Session

open Foreign (Reads Out)

/-! ## What the calls return -/

/-- What a call has returned: its number, and what became of the place for the result. -/
abbrev Returned := Int × Option (Out ForeignResult)

/-- What is returned for a key: the key, or 30 and null if it has a NUL byte. -/
def delivery (key : String) : Returned :=
  if 0 ∈ Utf8.encode key then (30, some .cleared) else (0, some (.value (.text key)))

/-- What is returned when there are no more keys. -/
def exhausted : Returned := (2, some .cleared)

/-- What a number of calls return for some keys: one result for each key, in their order, and from
then on that there are no more. -/
def reports (keys : List String) (count : Nat) : List Returned :=
  (keys.map delivery).take count ++ List.replicate (count - keys.length) exhausted

/-- The text that was handed out. -/
def Returned.text? : Returned → Option String
  | (_, some (.value (.text text))) => some text
  | _ => none

theorem reports_zero (keys : List String) : reports keys 0 = [] := by
  rw [reports, List.take_zero, Nat.zero_sub]
  rfl

/-- A first call takes the first key, and the other calls are made for the others. -/
theorem reports_succ (keys : List String) (count : Nat) :
    reports keys (count + 1) = keys.head?.elim exhausted delivery :: reports keys.tail count := by
  cases keys with
  | nil =>
    rw [reports, reports, List.map_nil, List.tail_nil, List.map_nil, List.take_nil, List.take_nil,
      List.length_nil]
    rfl
  | cons key keys =>
    rw [reports, reports, List.map_cons, List.take_succ_cons, List.length_cons,
      Nat.add_sub_add_right, List.cons_append]
    rfl

/-- **The texts that are handed out** are the keys without a NUL byte, if there are enough calls. -/
theorem texts_reports {keys : List String} {count : Nat} (h : keys.length ≤ count) :
    (reports keys count).filterMap Returned.text? =
      keys.filter fun key => 0 ∉ Utf8.encode key := by
  have hnone : (List.replicate (count - keys.length) exhausted).filterMap Returned.text? = [] :=
    List.filterMap_replicate_of_none rfl
  have htake : (keys.map delivery).take count = keys.map delivery :=
    List.take_of_length_le (by rwa [List.length_map])
  rw [reports, List.filterMap_append, hnone, List.append_nil, htake, List.filterMap_map,
    ← List.filterMap_eq_filter]
  refine List.filterMap_congr fun key _ => ?_
  by_cases hnul : 0 ∈ Utf8.encode key
  · simp [delivery, hnul, Returned.text?, Option.guard]
  · simp [delivery, hnul, Returned.text?, Option.guard]

/-- The call asks a cursor for its next key, and has a place for it. -/
def Command.fetches (cursor : String) : Command → Bool
  | .foreign (.next (some name) true) => name = cursor
  | _ => false

/-- What the calls have returned that ask a cursor in a run, in order. -/
def deliveries (cursor : String) (steps : List (Command × Answer)) : List Returned :=
  steps.filterMap fun step => if step.1.fetches cursor then step.2.returned? else none

/-! ## One step and a cursor -/

variable {session : Session} {command : Command} {cursor handle : String} {held : KeyCursor}
  {store : Store}

section Tables

variable {α : Type} (handles : Handles α) {name : String}

theorem get?_keep_of_ne {other : Option String} (h : other ≠ some name) (thing : Option α) :
    (keep handles other thing).get? name = handles.get? name := by
  unfold keep
  split
  next other thing => exact Handles.get?_assign_of_ne _ (fun heq => h (congrArg some heq.symm)) _
  · rfl

theorem get?_gain_of_ne {other : String} (h : other ≠ name) (out : Out α) :
    (gain handles other out).get? name = handles.get? name := by
  unfold gain
  split
  · exact Handles.get?_assign_of_ne _ (Ne.symm h) _
  · rfl

theorem get?_giveUp_of_ne {other : Option String} (h : other ≠ some name) :
    (giveUp handles other).get? name = handles.get? name := by
  unfold giveUp
  split
  next other => exact Handles.get?_release_of_ne _ fun heq => h (congrArg some heq.symm)
  · rfl

end Tables

/-- The command neither makes a cursor under the name nor destroys the one that has it. -/
def Command.Spares (cursor : String) : Command → Prop
  | .foreign (.iterate (some _) name true) => name ≠ cursor
  | .foreign (.destroy name) => name ≠ some cursor
  | _ => True

/-- What is open through the C interface is changed by its calls alone. -/
theorem foreign_step (session : Session) (h : ∀ call, command ≠ .foreign call) :
    (session.step command).2.foreignStores = session.foreignStores ∧
      (session.step command).2.foreignCursors = session.foreignCursors := by
  cases command with
  | limit | disk | verify | commandLine => exact ⟨rfl, rfl⟩
  | openStore name settings =>
    simp only [step, openStore]
    split <;> exact ⟨rfl, rfl⟩
  | store name command =>
    simp only [step]
    split
    · exact ⟨rfl, rfl⟩
    · cases command <;> exact ⟨rfl, rfl⟩
  | openFile name path create sync =>
    simp only [step, openFile]
    split <;> exact ⟨rfl, rfl⟩
  | file name command =>
    simp only [step]
    split
    · exact ⟨rfl, rfl⟩
    · cases command <;> exact ⟨rfl, rfl⟩
  | foreign call => exact absurd rfl (h call)
  | cursor name query =>
    simp only [step]
    split <;> exact ⟨rfl, rfl⟩

/-- **A call that asks a cursor** returns the first of its keys, and leaves the others. -/
theorem step_fetches (h : session.foreignCursors.get? cursor = some held)
    (hfetches : command.fetches cursor = true) :
    (session.step command).1.returned? = some (held.pending.head?.elim exhausted delivery) ∧
      (session.step command).2.foreignCursors.get? cursor = some ⟨held.pending.tail⟩ := by
  unfold Command.fetches at hfetches
  split at hfetches
  next name =>
    obtain rfl : name = cursor := of_decide_eq_true hfetches
    obtain ⟨pending⟩ := held
    simp only [step, onForeign, foreignHandle, h, Option.map_some, Foreign.next]
    cases pending with
    | nil => exact ⟨rfl, Handles.get?_assign_self _ _ _⟩
    | cons key rest =>
      refine ⟨?_, Handles.get?_assign_self _ _ _⟩
      simp only [KeyCursor.next, Foreign.handOut, List.contains_iff_mem, List.head?_cons,
        Option.elim_some, delivery]
      split <;> rfl
  · cases hfetches

/-- **A call with a null cursor or a null place** returns 20, and leaves the place and all
cursors. -/
theorem step_next_null {name : Option String} {place : Bool} (hnull : name = none ∨ place = false)
    (hlive : ∀ other, name = some other → (session.foreignCursors.get? other).isSome) :
    (session.step (.foreign (.next name place))).1.returned? = some (20, some (.refused place)) ∧
      ∀ other, (session.step (.foreign (.next name place))).2.foreignCursors.get? other =
        session.foreignCursors.get? other := by
  cases name with
  | none => cases place <;> exact ⟨rfl, fun _ => rfl⟩
  | some name =>
    obtain rfl : place = false := hnull.resolve_left (Option.some_ne_none name)
    obtain ⟨held, hheld⟩ := Option.isSome_iff_exists.1 (hlive name rfl)
    simp only [step, onForeign, foreignHandle, hheld, Option.map_some, Foreign.next, keep]
    exact ⟨rfl, Handles.get?_assign_same hheld⟩

/-- **Any other step leaves a cursor**, if it neither makes it anew nor destroys it. -/
theorem step_spares (hspares : command.Spares cursor) (hfetches : command.fetches cursor = false) :
    (session.step command).2.foreignCursors.get? cursor = session.foreignCursors.get? cursor := by
  by_cases hcall : ∀ call, command ≠ .foreign call
  · rw [(foreign_step session hcall).2]
  push Not at hcall
  obtain ⟨call, rfl⟩ := hcall
  cases call with
  | openStore | freeNull => rfl
  | get | set | close =>
    simp only [step, onForeign]
    split <;> rfl
  | iterate name other place =>
    -- a cursor is made only where neither the handle nor the place is null
    cases name with
    | none => cases place <;> rfl
    | some name =>
      simp only [step, onForeign]
      split
      · rfl
      next store _ =>
        cases place with
        | false => cases store <;> rfl
        | true => exact get?_gain_of_ne _ hspares _
  | destroy name =>
    simp only [step, onForeign]
    split
    · rfl
    · exact get?_giveUp_of_ne _ hspares
  | next name place =>
    by_cases hname : name = some cursor
    · -- it is this cursor, but there is no place for the key
      subst hname
      obtain rfl : place = false := by
        cases place with
        | false => rfl
        | true => exact absurd hfetches (by simp [Command.fetches])
      cases hheld : session.foreignCursors.get? cursor with
      | none => simp only [step, onForeign, foreignHandle, hheld, Option.map_none]
      | some held =>
        rw [← hheld]
        refine (step_next_null (.inr rfl) ?_).2 cursor
        rintro _ ⟨⟩
        exact Option.isSome_of_eq_some hheld
    · simp only [step, onForeign]
      split
      · rfl
      · exact get?_keep_of_ne _ hname _

/-! ## Runs and a cursor -/

/-- **What the calls of a run return** that ask a cursor depends on the keys that are pending and on
how many calls there are, if the run neither makes the cursor anew nor destroys it. -/
theorem run_fetches {commands : List Command} (h : session.foreignCursors.get? cursor = some held)
    (hspares : ∀ command ∈ commands, command.Spares cursor) :
    deliveries cursor (commands.zip (session.run commands)) =
        reports held.pending (commands.countP (Command.fetches cursor)) ∧
      ((session.after commands).foreignCursors.get? cursor).isSome := by
  induction commands generalizing session held with
  | nil => exact ⟨(reports_zero _).symm, Option.isSome_of_eq_some h⟩
  | cons command commands ih =>
    have hrest : ∀ other ∈ commands, other.Spares cursor :=
      fun other hother => hspares other (List.mem_cons_of_mem _ hother)
    rw [zip_run_cons, deliveries, after_cons]
    cases hfetches : command.fetches cursor with
    | true =>
      obtain ⟨hreturned, hleft⟩ := step_fetches h hfetches
      obtain ⟨hdeliveries, hopen⟩ := ih hleft hrest
      refine ⟨?_, hopen⟩
      rw [List.countP_cons_of_pos hfetches, reports_succ, ← hdeliveries]
      exact List.filterMap_cons_some (by simp only [hfetches, if_true, hreturned])
    | false =>
      have hleft := (step_spares (hspares _ List.mem_cons_self) hfetches).trans h
      obtain ⟨hdeliveries, hopen⟩ := ih hleft hrest
      refine ⟨?_, hopen⟩
      rw [List.countP_cons_of_neg (by simp [hfetches]), ← hdeliveries]
      exact List.filterMap_cons_none (by simp [hfetches])

/-! ## The keys of a store -/

/-- The call gave the key a value, through this handle. -/
inductive Stores (handle key : String) : Command × Answer → Prop where
  | set {pointer pointer' : Option Bytes} {answer : Answer} (hkey : Reads pointer key)
    (hdone : answer.returned? = some (0, none)) :
    Stores handle key (.foreign (.set (some handle) pointer pointer'), answer)

/-- The command neither opens a store under the name nor closes the one that has it. -/
def Command.KeepsOpen (handle : String) : Command → Prop
  | .foreign (.openStore name _ true) => name ≠ handle
  | .foreign (.close name) => name ≠ some handle
  | _ => True

/-- **A call that sets a key** adds it to the keys of its store if it returns 0, and nothing
otherwise. -/
theorem step_keys_of_set (h : session.foreignStores.get? handle = some store)
    (pointer pointer' : Option Bytes) :
    ∃ later, (session.step (.foreign (.set (some handle) pointer pointer'))).2.foreignStores.get?
        handle = some later ∧
      ∀ key, key ∈ later.index.keys ↔ key ∈ store.index.keys ∨
        Stores handle key (.foreign (.set (some handle) pointer pointer'),
          (session.step (.foreign (.set (some handle) pointer pointer'))).1) := by
  obtain ⟨status, later, volume, hcall, hcases⟩ :=
    Foreign.set_index_cases session.medium session.volume store pointer pointer'
  have hstep : session.step (.foreign (.set (some handle) pointer pointer')) =
      (.foreign status none,
        { session with volume, foreignStores := session.foreignStores.assign handle later }) := by
    simp only [step, onForeign, foreignHandle, h, Option.map_some, hcall, keep]
  rw [hstep]
  refine ⟨later, Handles.get?_assign_self _ _ _, fun key => ?_⟩
  rcases hcases with ⟨hstatus, hindex⟩ | ⟨rfl, inserted, span, hinserted, hindex⟩
  · rw [hindex, or_iff_left]
    rintro ⟨-, hdone⟩
    exact hstatus (Foreign.Status.code_eq_zero_iff.1 (congrArg Prod.fst (Option.some.inj hdone)))
  · rw [hindex, Index.mem_keys_insert]
    refine or_congr_right ⟨?_, ?_⟩
    · rintro rfl
      exact .set hinserted rfl
    · rintro ⟨hkey, -⟩
      exact hkey.unique hinserted

/-- Any other step leaves the index of a store, if it neither opens one under its name nor closes
it. -/
theorem step_index (h : session.foreignStores.get? handle = some store)
    (hopen : command.KeepsOpen handle)
    (hset : ∀ pointer pointer', command ≠ .foreign (.set (some handle) pointer pointer')) :
    ∃ later, (session.step command).2.foreignStores.get? handle = some later ∧
      later.index = store.index := by
  by_cases hcall : ∀ call, command ≠ .foreign call
  · exact ⟨store, (congrArg (Handles.get? · handle) (foreign_step session hcall).1).trans h, rfl⟩
  push Not at hcall
  obtain ⟨call, rfl⟩ := hcall
  cases call with
  | freeNull => exact ⟨store, h, rfl⟩
  | iterate | next | destroy =>
    simp only [step, onForeign]
    split <;> exact ⟨store, h, rfl⟩
  | openStore name pointer place =>
    cases place with
    | false => exact ⟨store, h, rfl⟩
    | true => exact ⟨store, (get?_gain_of_ne _ hopen _).trans h, rfl⟩
  | close name =>
    simp only [step, onForeign]
    split
    · exact ⟨store, h, rfl⟩
    · exact ⟨store, (get?_giveUp_of_ne _ hopen).trans h, rfl⟩
  | set name pointer pointer' =>
    have hname : name ≠ some handle := by
      rintro rfl
      exact hset pointer pointer' rfl
    simp only [step, onForeign]
    split
    · exact ⟨store, h, rfl⟩
    · exact ⟨store, (get?_keep_of_ne _ hname _).trans h, rfl⟩
  | get name pointer place =>
    by_cases hname : name = some handle
    · subst hname
      obtain ⟨later, hlater, hindex⟩ := Foreign.get_index session.volume store pointer place
      simp only [step, onForeign, foreignHandle, h, Option.map_some, keep, hlater]
      exact ⟨later, Handles.get?_assign_self _ _ _, hindex⟩
    · simp only [step, onForeign]
      split
      · exact ⟨store, h, rfl⟩
      · exact ⟨store, (get?_keep_of_ne _ hname _).trans h, rfl⟩

/-- **The keys of a store after a step**: those it had, and the one that the step set. -/
theorem step_keys (h : session.foreignStores.get? handle = some store)
    (hopen : command.KeepsOpen handle) :
    ∃ later, (session.step command).2.foreignStores.get? handle = some later ∧
      ∀ key, key ∈ later.index.keys ↔
        key ∈ store.index.keys ∨ Stores handle key (command, (session.step command).1) := by
  by_cases hset : ∃ pointer pointer', command = .foreign (.set (some handle) pointer pointer')
  · obtain ⟨pointer, pointer', rfl⟩ := hset
    exact step_keys_of_set h pointer pointer'
  · push Not at hset
    obtain ⟨later, hlater, hindex⟩ := step_index h hopen hset
    refine ⟨later, hlater, fun key => ?_⟩
    rw [hindex, or_iff_left]
    rintro ⟨-, -⟩
    exact hset _ _ rfl

/-- **The keys of a store after a run**: those it had, and those that were set through its
handle. -/
theorem run_keys {commands : List Command} (h : session.foreignStores.get? handle = some store)
    (hopen : ∀ command ∈ commands, command.KeepsOpen handle) :
    ∃ later, (session.after commands).foreignStores.get? handle = some later ∧
      ∀ key, key ∈ later.index.keys ↔ key ∈ store.index.keys ∨
        ∃ step ∈ commands.zip (session.run commands), Stores handle key step := by
  induction commands generalizing session store with
  | nil => exact ⟨store, h, fun key => by simp⟩
  | cons command commands ih =>
    obtain ⟨between, hbetween, hfirst⟩ := step_keys h (hopen _ List.mem_cons_self)
    obtain ⟨later, hlater, hrest⟩ :=
      ih hbetween fun other hother => hopen other (List.mem_cons_of_mem _ hother)
    refine ⟨later, hlater, fun key => ?_⟩
    rw [hrest, hfirst, zip_run_cons, or_assoc, List.exists_mem_cons_iff]

/-- A store that was opened through the C interface holds the log that is at its path. -/
theorem holds_of_step_open {opened : Session} {pointer : Option Bytes}
    (hreturned : (session.step (.foreign (.openStore handle pointer true))).1.returned? =
      some (0, some (.value .handle)))
    (hopened : (session.step (.foreign (.openStore handle pointer true))).2 = opened) :
    ∃ path log store, Reads pointer path ∧ store.Holds opened.volume path log ∧
      opened.foreignStores.get? handle = some store := by
  cases hpointer : Foreign.argument pointer with
  | error status =>
    simp [step, onForeign, Foreign.openStore, hpointer, Answer.returned?, Out.map] at hreturned
  | ok path =>
    cases hstore : Store.openWith session.volume { path } with
    | mk result volume =>
      cases result with
      | error error =>
        simp [step, onForeign, Foreign.openStore, hpointer, hstore, Answer.returned?, Out.map]
          at hreturned
      | ok store =>
        obtain ⟨log, hholds⟩ := Store.holds_of_openWith hstore
        simp only [step, onForeign, Foreign.openStore, hpointer, hstore, gain, Bool.not_true,
          Bool.false_eq_true, if_false] at hopened
        subst hopened
        exact ⟨path, log, store, Foreign.argument_eq_ok_iff.1 hpointer, hholds,
          Handles.get?_assign_self _ _ _⟩

/-- **Iteration delivers every key that C can hold.**  Let a store be opened through the C
interface, let commands follow that neither close it nor open another one under its handle, and let
a cursor be made over its keys.  Then let any commands follow that neither destroy the cursor nor
give its name to another one: they may ask this cursor and others, make others, and write to the
store and close it.

* The keys are those of the records that were at the path when the store was opened, and those for
  which a call through the handle returned 0 since.  They ascend strictly in the order of their
  UTF-8 bytes, so that each comes once.
* The calls that ask the cursor return one result for each of these keys, in this order: 0 and the
  key, or 30 and null if the key has a NUL byte.  From then on they return 2 and null for ever.
* If there are as many calls as keys, the texts that they hand out are all keys without a NUL byte.
* A call with a null cursor or a null place returns 20.  It is none of those that ask the cursor,
  and leaves all cursors and its place as they are. -/
theorem iteration_delivers_live_keys {opened made : Session} {pointer : Option Bytes}
    {before commands : List Command}
    (hreturned : (session.step (.foreign (.openStore handle pointer true))).1.returned? =
      some (0, some (.value .handle)))
    (hopened : (session.step (.foreign (.openStore handle pointer true))).2 = opened)
    (hbefore : ∀ command ∈ before, command.KeepsOpen handle)
    (hmade : ((opened.after before).step (.foreign (.iterate (some handle) cursor true))).2 = made)
    (hspares : ∀ command ∈ commands, command.Spares cursor) :
    ((opened.after before).step (.foreign (.iterate (some handle) cursor true))).1.returned? =
      some (0, some (.value .handle)) ∧
    ∃ path log keys, Reads pointer path ∧ opened.volume.bytesAt? path = some (Log.bytes log) ∧
      (∀ key, key ∈ keys ↔ (∃ record ∈ log, record.key = key) ∨
        ∃ step ∈ before.zip (opened.run before), Stores handle key step) ∧
      keys.Pairwise Utf8.Before ∧ keys.Nodup ∧
      deliveries cursor (commands.zip (made.run commands)) =
        reports keys (commands.countP (Command.fetches cursor)) ∧
      (keys.length ≤ commands.countP (Command.fetches cursor) →
        (deliveries cursor (commands.zip (made.run commands))).filterMap Returned.text? =
          keys.filter fun key => 0 ∉ Utf8.encode key) ∧
      ((made.after commands).foreignCursors.get? cursor).isSome ∧
      ∀ name place, name = none ∨ place = false →
        (∀ other, name = some other →
          ((made.after commands).foreignCursors.get? other).isSome) →
        ((made.after commands).step (.foreign (.next name place))).1.returned? =
            some (20, some (.refused place)) ∧
          ∀ other, ((made.after commands).step
              (.foreign (.next name place))).2.foreignCursors.get? other =
            (made.after commands).foreignCursors.get? other := by
  obtain ⟨path, log, store, hpath, hholds, hstore⟩ := holds_of_step_open hreturned hopened
  obtain ⟨later, hlater, hkeys⟩ := run_keys hstore hbefore
  have hmake : (opened.after before).step (.foreign (.iterate (some handle) cursor true)) =
      (.foreign .ok (some (.value .handle)),
        { opened.after before with
          foreignCursors := (opened.after before).foreignCursors.assign cursor later.keys }) := by
    simp only [step, onForeign, foreignHandle, hlater, Option.map_some, Foreign.iterate, gain,
      Out.map]
  have hfresh : made.foreignCursors.get? cursor = some later.keys := by
    rw [← hmade, hmake]
    exact Handles.get?_assign_self _ _ _
  obtain ⟨hdeliveries, hcursor⟩ := run_fetches hfresh hspares
  refine ⟨by rw [hmake]; rfl, path, log, later.index.keys, hpath, hholds.bytesAt?, fun key => ?_,
    later.index.pairwise_keys, later.index.nodup_keys, hdeliveries, fun henough => ?_, hcursor,
    fun name place => step_next_null⟩
  · rw [hkeys, hholds.index, Log.mem_keys_index_iff, List.mem_map]
  · rw [hdeliveries]
    exact texts_reports henough

/-! ## A key that C cannot hold -/

/-- Sets a third key, and fails to set a fourth one, which is empty. -/
def setBoth : List Command :=
  [.foreign (.set (some "h") (some (Utf8.encode "c")) (some (Utf8.encode "3"))),
    .foreign (.set (some "h") (some []) (some (Utf8.encode "4")))]

/-- Asks a cursor again and again.  In between there are calls with a null cursor and with a null
place, another key is set, another cursor is made, asked and destroyed, and the store is closed. -/
def askAround : List Command :=
  [.foreign (.next none true), .foreign (.next (some "i") false), .foreign (.next (some "i") true),
    .foreign (.set (some "h") (some (Utf8.encode "aa")) (some (Utf8.encode "5"))),
    .foreign (.iterate (some "h") "j" true), .foreign (.next (some "j") true),
    .foreign (.close (some "h")), .foreign (.next (some "i") true),
    .foreign (.next (some "j") true), .foreign (.destroy (some "j")),
    .foreign (.next (some "i") true), .foreign (.next (some "i") true),
    .foreign (.next (some "i") true)]

/-- Opens the log with a NUL byte in one of its keys. -/
def openForeign : Command := .foreign (.openStore "h" (some (Utf8.encode "heap")) true)

/-- Makes the cursor. -/
def iterateForeign : Command := .foreign (.iterate (some "h") "i" true)

/-- The key with the NUL byte is reported and passed over, the others are handed out, and the key
that was set later is not. -/
theorem iteration_delivers_live_keys_foreign :
    ∃ found opened made : Session, start.after (openWithNul.take 1) = found ∧
      (found.step openForeign).1.returned? = some (0, some (.value .handle)) ∧
      (found.step openForeign).2 = opened ∧
      (∀ command ∈ setBoth, command.KeepsOpen "h") ∧
      ((opened.after setBoth).step iterateForeign).2 = made ∧
      (∀ command ∈ askAround, command.Spares "i") ∧
      deliveries "i" (askAround.zip (made.run askAround)) =
        [(30, some .cleared), (0, some (.value (.text "b"))), (0, some (.value (.text "c"))),
          (2, some .cleared), (2, some .cleared)] ∧
      ∃ keys : List String, keys.Pairwise Utf8.Before ∧ (∀ key ∈ ["a\x00", "b", "c"], key ∈ keys) ∧
        deliveries "i" (askAround.zip (made.run askAround)) = reports keys 5 ∧
        ((made.after askAround).step (.foreign (.next (some "i") false))).1.returned? =
          some (20, some .absent) := by
  have hreturned : ((start.after (openWithNul.take 1)).step openForeign).1.returned? =
      some (0, some (.value .handle)) := by decide +kernel
  have hbefore : ∀ command ∈ setBoth, command.KeepsOpen "h" := by
    simp [setBoth, Command.KeepsOpen]
  have hspares : ∀ command ∈ askAround, command.Spares "i" := by
    simp [askAround, Command.Spares]
  obtain ⟨-, path, log, keys, hpath, hbytes, hkeys, hascending, -, hdeliveries, -, hcursor,
    hnull⟩ := iteration_delivers_live_keys hreturned rfl hbefore rfl hspares
  obtain rfl : path = "heap" := hpath.unique ⟨_, rfl, by decide +kernel⟩
  have hfound : ((start.after (openWithNul.take 1)).step openForeign).2.volume.bytesAt? "heap" =
      some withNul.bytes := by decide +kernel
  obtain rfl : withNul = log := Log.bytes_injective (Option.some.inj (hfound.symm.trans hbytes))
  refine ⟨_, _, _, rfl, hreturned, rfl, hbefore, rfl, hspares, by decide +kernel, keys, hascending,
    ?_, hdeliveries, ?_⟩
  · have hset : ∃ step ∈
        setBoth.zip (((start.after (openWithNul.take 1)).step openForeign).2.run setBoth),
          Stores "h" "c" step := by
      rw [setBoth, zip_run_cons]
      exact ⟨_, List.mem_cons_self, .set ⟨_, rfl, by decide +kernel⟩ (by decide +kernel)⟩
    simp only [List.forall_mem_cons]
    refine ⟨(hkeys _).2 (.inl ?_), (hkeys _).2 (.inl ?_), (hkeys _).2 (.inr hset), by simp⟩
    · exact ⟨_, List.mem_cons_self, by decide +kernel⟩
    · exact ⟨_, List.mem_cons_of_mem _ List.mem_cons_self, by decide +kernel⟩
  · refine (hnull (some "i") false (.inr rfl) ?_).1
    rintro _ ⟨⟩
    exact hcursor

end Session
end KeyLog
