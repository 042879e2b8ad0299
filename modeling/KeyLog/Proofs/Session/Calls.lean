import KeyLog.Proofs.Foreign
import KeyLog.Proofs.Session.Sole

/-!
# Calls of the C interface and commands for a store

A call of the C interface either *means* a command for a store, or is *refused* with a number that
its arguments alone decide.  A session with handles of the C interface *mirrors* one with stores if
both have the same volume and the same stores under the same names.  Every call keeps that so: one
that means a command does what the command does, and one that is refused does nothing.

* `Session.Means`, `Session.Refused`: what becomes of a call, and `means_or_refused`: nothing else
  does.
* `Session.Mirrors.means`, `Session.Mirrors.refused`: one call.
* `Session.Mirrors.run`: hence any run of calls.
-/

namespace KeyLog

namespace Handles

variable {α : Type} {these those : Handles α}

/-- Tables that give the same things still do so once a name is given to the same thing in both. -/
theorem get?_assign_congr (h : ∀ name, these.get? name = those.get? name) (name : String)
    (thing : α) (other : String) :
    (these.assign name thing).get? other = (those.assign name thing).get? other := by
  by_cases hsame : other = name
  · rw [hsame, get?_assign_self, get?_assign_self]
  · rw [get?_assign_of_ne _ hsame, get?_assign_of_ne _ hsame, h]

/-- So do they once a name is released in both. -/
theorem get?_release_congr (h : ∀ name, these.get? name = those.get? name) (name other : String) :
    (these.release name).get? other = (those.release name).get? other := by
  by_cases hsame : other = name
  · rw [hsame, get?_release_self, get?_release_self]
  · rw [get?_release_of_ne _ hsame, get?_release_of_ne _ hsame, h]

/-- Giving a name to what it has already changes nothing. -/
theorem get?_assign_same {name : String} {thing : α} (h : these.get? name = some thing)
    (other : String) : (these.assign name thing).get? other = these.get? other := by
  by_cases hsame : other = name
  · rw [hsame, get?_assign_self, h]
  · exact get?_assign_of_ne _ hsame thing

end Handles

namespace Session

open Foreign (Reads Faulty FirstFault Out)

/-! ## What becomes of a call -/

deriving instance DecidableEq for ForeignResult

/-- The call opens, asks or closes a store. -/
def ForeignCommand.OnStore : ForeignCommand → Prop
  | .openStore _ _ _ | .get _ _ _ | .set _ _ _ | .close _ => True
  | _ => False

/-- A handle or a place is null that must not be. -/
def ForeignCommand.HasNull : ForeignCommand → Prop
  | .openStore _ _ place => place = false
  | .get handle _ place => handle = none ∨ place = false
  | .set handle _ _ => handle = none
  | _ => False

/-- The texts that the call hands over, in the order of the parameters. -/
def ForeignCommand.texts : ForeignCommand → List (Option Bytes)
  | .openStore _ path _ => [path]
  | .get _ key _ => [key]
  | .set _ key value => [key, value]
  | _ => []

/-- The handle that the call hands over. -/
def ForeignCommand.handle? : ForeignCommand → Option String
  | .get handle _ _ | .set handle _ _ | .close handle => handle
  | _ => none

/-- What a failure leaves in the place for the result: null in that of a look-up through a handle,
and otherwise what was there. -/
def ForeignCommand.onFailure : ForeignCommand → Option (Out ForeignResult)
  | .openStore _ _ place => some (.refused place)
  | .get (some _) _ true => some .cleared
  | .get _ _ place => some (.refused place)
  | _ => none

/-- The call asks for what the command does, with the texts that its pointers lead to. -/
inductive Means : ForeignCommand → Command → Prop where
  | openStore {handle : String} {pointer : Option Bytes} {path : String} (h : Reads pointer path) :
    Means (.openStore handle pointer true) (.openStore handle { path })
  | get {handle : String} {pointer : Option Bytes} {key : String} (h : Reads pointer key) :
    Means (.get (some handle) pointer true) (.store handle (.get key))
  | set {handle : String} {pointer pointer' : Option Bytes} {key value : String}
    (hkey : Reads pointer key) (hvalue : Reads pointer' value) :
    Means (.set (some handle) pointer pointer') (.store handle (.set key value))
  | close {handle : String} : Means (.close (some handle)) (.store handle .close)

/-- The call is refused with this number, whatever there is. -/
inductive Refused : ForeignCommand → Int → Prop where
  /-- A null handle or place comes first. -/
  | null {call : ForeignCommand} (h : call.HasNull) : Refused call 20
  /-- Then come the texts in their order. -/
  | text {call : ForeignCommand} {code : Int} (h : ¬ call.HasNull)
    (hfault : FirstFault call.texts code) : Refused call code
  /-- There is nothing to close. -/
  | closeNull : Refused (.close none) 0

/-- What a call returns that means a command with this answer: its number, and what becomes of the
place for the result.  A value with a NUL byte cannot be handed out. -/
def ForeignCommand.returns (call : ForeignCommand) : Answer → Option (Int × Option (Out ForeignResult))
  | .store (.ok (.opened _)) _ => some (0, some (.value .handle))
  | .store (.ok (.value value)) _ =>
    if 0 ∈ Utf8.encode value then some (30, call.onFailure) else some (0, some (.value (.text value)))
  | .store (.ok _) _ => some (0, none)
  | .store (.error error) _ => some (error.kind.code, call.onFailure)
  | _ => none

/-- What a call has returned. -/
def Answer.returned? : Answer → Option (Int × Option (Out ForeignResult))
  | .foreign status out => some (status.code, out)
  | _ => none

/-- **Every call on a store means a command or is refused.** -/
theorem means_or_refused {call : ForeignCommand} (h : call.OnStore) :
    (∃ command, Means call command) ∨ ∃ code, Refused call code := by
  by_cases hnull : call.HasNull
  · exact .inr ⟨20, .null hnull⟩
  rcases Foreign.firstFault_or_reads call.texts with ⟨code, hfault⟩ | hreads
  · exact .inr ⟨code, .text hnull hfault⟩
  cases call with
  | openStore handle pointer place =>
    obtain ⟨path, hpath⟩ := hreads pointer List.mem_cons_self
    obtain rfl : place = true := Bool.not_eq_false _ ▸ hnull
    exact .inl ⟨_, .openStore hpath⟩
  | get handle pointer place =>
    obtain ⟨key, hkey⟩ := hreads pointer List.mem_cons_self
    obtain ⟨hhandle, hplace⟩ := not_or.1 hnull
    obtain ⟨name, rfl⟩ := Option.ne_none_iff_exists'.1 hhandle
    obtain rfl : place = true := Bool.not_eq_false _ ▸ hplace
    exact .inl ⟨_, .get hkey⟩
  | set handle pointer pointer' =>
    obtain ⟨key, hkey⟩ := hreads pointer List.mem_cons_self
    obtain ⟨value, hvalue⟩ := hreads pointer' (List.mem_cons_of_mem _ List.mem_cons_self)
    obtain ⟨name, rfl⟩ := Option.ne_none_iff_exists'.1 hnull
    exact .inl ⟨_, .set hkey hvalue⟩
  | close handle =>
    cases handle with
    | none => exact .inr ⟨0, .closeNull⟩
    | some name => exact .inl ⟨_, .close⟩
  | iterate | next | destroy | freeNull => exact h.elim

/-! ## Sessions that mirror each other -/

/-- The handles of the C interface in one session have the stores of the other, on the same
volume. -/
structure Mirrors (c s : Session) : Prop where
  volume : c.volume = s.volume
  limit : c.limit = s.limit
  stores : ∀ handle, c.foreignStores.get? handle = s.stores.get? handle

/-- The handle of a call is open, if it has one. -/
def Live (session : Session) (call : ForeignCommand) : Prop :=
  ∀ handle, call.handle? = some handle → (session.foreignStores.get? handle).isSome

variable {c s : Session} {call : ForeignCommand} {command : Command} {code : Int}

/-- Every session of the C interface is mirrored by one with the same stores. -/
theorem mirrors_self (c : Session) : c.Mirrors { c with stores := c.foreignStores } :=
  ⟨rfl, rfl, fun _ => rfl⟩

/-- **A call that means a command** does what the command does, and returns what comes of it. -/
theorem Mirrors.means (h : c.Mirrors s) (hmeans : Means call command) :
    (c.step (.foreign call)).1.returned? = call.returns (s.step command).1 ∧
      (c.step (.foreign call)).2.Mirrors (s.step command).2 := by
  have hmedium : c.medium = s.medium := by rw [medium, medium, h.limit]
  cases hmeans with
  | @openStore handle pointer path hpath =>
    have hargument := Foreign.argument_eq_ok_iff.2 hpath
    simp only [step, onForeign, Foreign.openStore, hargument, h.volume, openStore]
    cases Store.openWith s.volume { path } with
    | mk result after =>
      cases result with
      | error error => exact ⟨rfl, rfl, h.limit, h.stores⟩
      | ok store => exact ⟨rfl, rfl, h.limit, Handles.get?_assign_congr h.stores handle store⟩
  | @get handle pointer key hkey =>
    have hargument := Foreign.argument_eq_ok_iff.2 hkey
    simp only [step, onForeign, foreignHandle, h.stores]
    cases hstore : s.stores.get? handle with
    | none => exact ⟨rfl, h⟩
    | some store =>
      simp only [Option.map_some, Foreign.get, hargument, h.volume, onStore]
      cases hget : store.get s.volume key with
      | mk result moved =>
        cases result with
        | error error => exact ⟨rfl, rfl, h.limit, Handles.get?_assign_congr h.stores handle moved⟩
        | ok value =>
          refine ⟨?_, ?_⟩
          · simp only [Foreign.handOut, List.contains_iff_mem, ForeignCommand.returns, Except.map]
            split <;> rfl
          · exact ⟨rfl, h.limit, Handles.get?_assign_congr h.stores handle moved⟩
  | @set handle pointer pointer' key value hkey hvalue =>
    have hargument := Foreign.argument_eq_ok_iff.2 hkey
    have hargument' := Foreign.argument_eq_ok_iff.2 hvalue
    simp only [step, onForeign, foreignHandle, h.stores]
    cases hstore : s.stores.get? handle with
    | none => exact ⟨rfl, h⟩
    | some store =>
      simp only [Option.map_some, Foreign.set, hargument, hargument', h.volume, hmedium, onStore]
      cases store.set s.medium s.volume key value with
      | mk result rest =>
        obtain ⟨moved, after⟩ := rest
        cases result <;>
          exact ⟨rfl, rfl, h.limit, Handles.get?_assign_congr h.stores handle moved⟩
  | @close handle =>
    simp only [step, onForeign, foreignHandle, h.stores]
    cases hstore : s.stores.get? handle with
    | none => exact ⟨rfl, h⟩
    | some store => exact ⟨rfl, h.volume, h.limit, Handles.get?_release_congr h.stores handle⟩

/-- A session in which a handle was given its own store again is mirrored as before. -/
theorem Mirrors.assign_same (h : c.Mirrors s) {handle : String} {store : Store}
    (hstore : c.foreignStores.get? handle = some store) :
    Mirrors { c with foreignStores := c.foreignStores.assign handle store } s := by
  refine ⟨h.volume, h.limit, ?_⟩
  intro other
  rw [← h.stores]
  exact Handles.get?_assign_same hstore other

/-- Nothing is done through a handle that is not open. -/
theorem step_of_not_live (h : ¬ c.Live call) : c.step (.foreign call) = (.noHandle, c) := by
  simp only [Live, not_forall, Option.not_isSome_iff_eq_none] at h
  obtain ⟨handle, hhandle, hstore⟩ := h
  cases call with
  | get _ pointer place | set _ pointer pointer' | close _ =>
    obtain rfl := hhandle
    simp only [step, onForeign, foreignHandle, hstore, Option.map_none]
  | openStore | iterate | next | destroy | freeNull => cases hhandle

/-- A null handle or place is refused before anything is done. -/
theorem Mirrors.null (h : c.Mirrors s) (hlive : c.Live call) (hnull : call.HasNull) :
    (c.step (.foreign call)).2.Mirrors s ∧
      (c.step (.foreign call)).1.returned? = some (20, call.onFailure) := by
  cases call with
  | openStore handle pointer place =>
    obtain rfl : place = false := hnull
    exact ⟨h, rfl⟩
  | get handle pointer place =>
    cases handle with
    | none => cases place <;> exact ⟨h, rfl⟩
    | some name =>
      obtain rfl : place = false := hnull.resolve_left (Option.some_ne_none name)
      obtain ⟨store, hstore⟩ := Option.isSome_iff_exists.1 (hlive name rfl)
      simp only [step, onForeign, foreignHandle, hstore]
      exact ⟨h.assign_same hstore, rfl⟩
  | set handle pointer pointer' =>
    obtain rfl : handle = none := hnull
    exact ⟨h, rfl⟩
  | close | iterate | next | destroy | freeNull => exact hnull.elim

/-- So is a text that is none, before the store is asked. -/
theorem Mirrors.fault (h : c.Mirrors s) (hlive : c.Live call) (hnull : ¬ call.HasNull)
    (hfault : FirstFault call.texts code) :
    (c.step (.foreign call)).2.Mirrors s ∧
      (c.step (.foreign call)).1.returned? = some (code, call.onFailure) := by
  cases call with
  | openStore handle pointer place =>
    obtain rfl : place = true := Bool.not_eq_false _ ▸ hnull
    cases hfault with
    | here hfaulty =>
      obtain ⟨status, hargument, rfl⟩ := Foreign.argument_of_faulty hfaulty
      simp only [step, onForeign, Foreign.openStore, hargument]
      exact ⟨h, rfl⟩
    | later _ hnone => cases hnone
  | get handle pointer place =>
    obtain ⟨hhandle, hplace⟩ := not_or.1 hnull
    obtain ⟨name, rfl⟩ := Option.ne_none_iff_exists'.1 hhandle
    obtain rfl : place = true := Bool.not_eq_false _ ▸ hplace
    obtain ⟨store, hstore⟩ := Option.isSome_iff_exists.1 (hlive name rfl)
    cases hfault with
    | here hfaulty =>
      obtain ⟨status, hargument, rfl⟩ := Foreign.argument_of_faulty hfaulty
      simp only [step, onForeign, foreignHandle, hstore, Option.map_some, Foreign.get, hargument]
      exact ⟨h.assign_same hstore, rfl⟩
    | later _ hnone => cases hnone
  | set handle pointer pointer' =>
    obtain ⟨name, rfl⟩ := Option.ne_none_iff_exists'.1 hnull
    obtain ⟨store, hstore⟩ := Option.isSome_iff_exists.1 (hlive name rfl)
    cases hfault with
    | here hfaulty =>
      obtain ⟨status, hargument, rfl⟩ := Foreign.argument_of_faulty hfaulty
      simp only [step, onForeign, foreignHandle, hstore, Option.map_some, Foreign.set, hargument]
      exact ⟨h.assign_same hstore, rfl⟩
    | later hreads hlater =>
      have hargument := Foreign.argument_eq_ok_iff.2 hreads
      cases hlater with
      | here hfaulty =>
        obtain ⟨status, hargument', rfl⟩ := Foreign.argument_of_faulty hfaulty
        simp only [step, onForeign, foreignHandle, hstore, Option.map_some, Foreign.set, hargument,
          hargument']
        exact ⟨h.assign_same hstore, rfl⟩
      | later _ hnone => cases hnone
  | close | iterate | next | destroy | freeNull => cases hfault

/-- **A call that is refused** does nothing, and returns its number.  A look-up through a handle puts
null into its place even then, and no other call puts anything there. -/
theorem Mirrors.refused (h : c.Mirrors s) (hrefused : Refused call code) :
    (c.step (.foreign call)).2.Mirrors s ∧
      (c.Live call → (c.step (.foreign call)).1.returned? = some (code, call.onFailure)) := by
  by_cases hlive : c.Live call
  · cases hrefused with
    | null hnull => exact (h.null hlive hnull).imp id fun hreturned _ => hreturned
    | text hnull hfault => exact (h.fault hlive hnull hfault).imp id fun hreturned _ => hreturned
    | closeNull => exact ⟨h, fun _ => rfl⟩
  · rw [step_of_not_live hlive]
    exact ⟨h, fun hopen => absurd hopen hlive⟩

/-! ## Runs -/

/-- A run of calls on stores, and of size limits. -/
def Command.Calls : Command → Prop
  | .limit _ => True
  | .foreign call => call.OnStore
  | _ => False

/-- **What a command of such a run is**: a limit, or a call that means a command or is refused. -/
theorem Command.Calls.cases {first : Command} (h : first.Calls) :
    (∃ limit, first = .limit limit) ∨ (∃ call command, first = .foreign call ∧ Means call command) ∨
      ∃ call code, first = .foreign call ∧ Refused call code := by
  cases first with
  | limit limit => exact .inl ⟨limit, rfl⟩
  | foreign call =>
    rcases means_or_refused h with ⟨command, hmeans⟩ | ⟨code, hrefused⟩
    · exact .inr (.inl ⟨call, command, rfl, hmeans⟩)
    · exact .inr (.inr ⟨call, code, rfl, hrefused⟩)
  | disk | openStore | store | verify | openFile | file | cursor | commandLine => exact h.elim

/-- The commands are what the calls mean, those left out that are refused. -/
inductive Echoes : List Command → List Command → Prop where
  | nil : Echoes [] []
  | limit {limit : Option Nat} {calls commands : List Command} (h : Echoes calls commands) :
    Echoes (.limit limit :: calls) (.limit limit :: commands)
  | means {call : ForeignCommand} {command : Command} {calls commands : List Command}
    (hmeans : Means call command) (h : Echoes calls commands) :
    Echoes (.foreign call :: calls) (command :: commands)
  | refused {call : ForeignCommand} {code : Int} {calls commands : List Command}
    (hrefused : Refused call code) (h : Echoes calls commands) :
    Echoes (.foreign call :: calls) commands

/-- Every run of calls has an echo. -/
theorem exists_echoes {calls : List Command} (h : ∀ call ∈ calls, call.Calls) :
    ∃ commands, Echoes calls commands := by
  induction calls with
  | nil => exact ⟨[], .nil⟩
  | cons first calls ih =>
    obtain ⟨commands, hechoes⟩ := ih fun call hcall => h call (List.mem_cons_of_mem _ hcall)
    rcases (h first List.mem_cons_self).cases with
      ⟨limit, rfl⟩ | ⟨call, command, rfl, hmeans⟩ | ⟨call, code, rfl, hrefused⟩
    · exact ⟨_, hechoes.limit⟩
    · exact ⟨_, hechoes.means hmeans⟩
    · exact ⟨_, hechoes.refused hrefused⟩

/-- **A run of calls** is mirrored by the run of its echo. -/
theorem Mirrors.run {calls commands : List Command} (h : c.Mirrors s)
    (hechoes : Echoes calls commands) : (c.after calls).Mirrors (s.after commands) := by
  induction hechoes generalizing c s with
  | nil => exact h
  | limit hechoes ih =>
    refine ih ?_
    exact ⟨h.volume, rfl, h.stores⟩
  | means hmeans hechoes ih => exact ih (h.means hmeans).2
  | refused hrefused hechoes ih => exact ih (h.refused hrefused).1

end Session
end KeyLog
