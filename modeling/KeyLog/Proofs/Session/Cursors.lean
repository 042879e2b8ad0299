import KeyLog.Proofs.Index
import KeyLog.Proofs.Session.Twins

/-!
# Cursors are snapshots

A cursor over the keys of a store is made once and asked many times, and in between the store is
written to, compacted, closed and opened again, and other cursors are made and asked.  None of this
reaches the cursor: what it hands out, and how much it says is left, depends on the keys that the
store had when the cursor was made and on how often the cursor itself was asked.

The proof keeps one equation through the run: the keys that were handed out, followed by those that
are still pending, are the keys that the store had.

* `KeyCursor.Reply.keys`, `Session.produced`: the keys that are handed out of a cursor.
* `KeyCursor.Reply.of`: what a snapshot answers when some keys have been handed out.
* `Session.step_cursor`, `Session.run_cursor`: the equation, for a step and for a run.
* `Session.cursors_are_snapshots`: what a cursor hands out and answers in any run.
-/

namespace KeyLog

namespace KeyCursor

/-- The keys that a reply hands out. -/
def Reply.keys : Reply → List String
  | .next key _ => key.toList
  | .info _ => []
  | .rest keys => keys

/-- The reply of a snapshot of some keys, of which a number has been handed out. -/
def Reply.of (keys : List String) (count : Nat) : Query → Reply
  | .next => .next keys[count]? (keys.length - (count + 1))
  | .info => .info (keys.length - count)
  | .rest => .rest (keys.drop count)

/-- A cursor hands out the first of the keys that it has, and keeps the others. -/
theorem keys_ask (cursor : KeyCursor) (query : Query) :
    (cursor.ask query).1.keys ++ (cursor.ask query).2.pending = cursor.pending := by
  cases query with
  | next =>
    obtain ⟨pending⟩ := cursor
    cases pending <;> rfl
  | info => rfl
  | rest => exact List.append_nil _

/-- **A cursor answers by position** among the keys that it had in the beginning. -/
theorem reply_ask {cursor : KeyCursor} {handed keys : List String}
    (h : handed ++ cursor.pending = keys) (query : Query) :
    (cursor.ask query).1 = .of keys handed.length query := by
  subst h
  obtain ⟨pending⟩ := cursor
  cases query with
  | next =>
    cases pending with
    | nil => simp [ask, next, remaining, Reply.of]
    | cons key later =>
      have hleft : (handed ++ key :: later).length - (handed.length + 1) = later.length := by
        rw [List.length_append, List.length_cons]
        omega
      simp only [ask, next, remaining, Reply.of, hleft, List.getElem?_append_right (Nat.le_refl _),
        Nat.sub_self, List.getElem?_cons_zero]
  | info => simp [ask, remaining, Reply.of]
  | rest => simp [ask, rest, Reply.of]

end KeyCursor

namespace Session

/-- The cursor that a command makes. -/
def Command.makes? : Command → Option String
  | .store _ (.iterate name) => some name
  | _ => none

/-- The keys that a command is handed out of a cursor. -/
def handed (cursor : String) : Command × Answer → List String
  | (.cursor name _, .cursor reply) => if name = cursor then reply.keys else []
  | _ => []

/-- The keys that a run is handed out of a cursor, in order. -/
def produced (cursor : String) (steps : List (Command × Answer)) : List String :=
  steps.flatMap (handed cursor)

variable {session : Session} {command : Command} {cursor : String} {held : KeyCursor}

/-! ## One step -/

/-- A command that neither makes nor asks a cursor is handed nothing of it. -/
theorem handed_of_ne (h : command.cursor? ≠ some cursor) (answer : Answer) :
    handed cursor (command, answer) = [] := by
  cases command with
  | cursor name query =>
    cases answer with
    | cursor reply => exact if_neg fun hname => h (congrArg some hname)
    | _ => rfl
  | _ => rfl

/-- **A step hands out the first keys of a cursor and leaves the others**, if it does not make the
cursor anew. -/
theorem step_cursor (h : session.cursors.get? cursor = some held)
    (hmakes : command.makes? ≠ some cursor) :
    ∃ later, (session.step command).2.cursors.get? cursor = some later ∧
      handed cursor (command, (session.step command).1) ++ later.pending = held.pending := by
  by_cases hcursor : command.cursor? = some cursor
  · cases command with
    | cursor name query =>
      obtain rfl : name = cursor := Option.some.inj hcursor
      simp only [step, h]
      refine ⟨_, Handles.get?_assign_self _ _ _, ?_⟩
      rw [handed, if_pos rfl]
      exact held.keys_ask query
    | store name command =>
      cases command with
      | iterate other => exact (hmakes hcursor).elim
      | _ => cases hcursor
    | _ => cases hcursor
  · refine ⟨held, (cursors_step session hcursor).trans h, ?_⟩
    rw [handed_of_ne hcursor, List.nil_append]

/-! ## Runs -/

/-- **A run hands out the first keys of a cursor and leaves the others**, if it does not make the
cursor anew. -/
theorem run_cursor {commands : List Command} (h : session.cursors.get? cursor = some held)
    (hmakes : ∀ command ∈ commands, command.makes? ≠ some cursor) :
    ∃ later, (session.after commands).cursors.get? cursor = some later ∧
      produced cursor (commands.zip (session.run commands)) ++ later.pending = held.pending := by
  induction commands generalizing session held with
  | nil => exact ⟨held, h, rfl⟩
  | cons command commands ih =>
    obtain ⟨between, hbetween, hfirst⟩ := step_cursor h (hmakes _ List.mem_cons_self)
    obtain ⟨later, hlater, hrest⟩ :=
      ih hbetween fun other hother => hmakes other (List.mem_cons_of_mem _ hother)
    refine ⟨later, hlater, ?_⟩
    rw [← hfirst, ← hrest, ← List.append_assoc]
    rfl

/-- **Cursors are snapshots.**  Let a cursor be made over the keys of an open store, and let any
commands follow that do not give its name to another cursor: they may ask this cursor and others,
make others, and write to the store, compact it, close it and open it again.

* The keys that the store has when the cursor is made ascend strictly in the order of their UTF-8
  bytes, so that each comes once, and they are those that the store says it contains.
* The keys that the cursor hands out are the first of these, in their order.
* Whatever it is asked then, it answers by the number of keys that it has handed out: which key is
  next, how many are left, and which are.
* Once it has handed out all of them, it hands out none for ever. -/
theorem cursors_are_snapshots {made : Session} {name : String} {store : Store}
    {commands : List Command} (hstore : session.stores.get? name = some store)
    (hmade : (session.step (.store name (.iterate cursor))).2 = made)
    (hkept : ∀ command ∈ commands, command.makes? ≠ some cursor) :
    store.index.keys.Pairwise Utf8.Before ∧ store.index.keys.Nodup ∧
    (∀ key, key ∈ store.index.keys ↔ store.contains key = true) ∧
    produced cursor (commands.zip (made.run commands)) <+: store.index.keys ∧
    (∀ query, ((made.after commands).step (.cursor cursor query)).1 =
      .cursor (.of store.index.keys (produced cursor (commands.zip (made.run commands))).length
        query)) ∧
    (produced cursor (commands.zip (made.run commands)) = store.index.keys →
      ∀ more : List Command, (∀ command ∈ more, command.makes? ≠ some cursor) →
        produced cursor (more.zip ((made.after commands).run more)) = [] ∧
        (((made.after commands).after more).step (.cursor cursor .next)).1 =
          .cursor (.next none 0)) := by
  have hcursor : made.cursors.get? cursor = some store.keys := by
    rw [← hmade]
    simp only [step, hstore, onStore]
    exact Handles.get?_assign_self _ _ _
  obtain ⟨later, hlater, hall⟩ := run_cursor hcursor hkept
  refine ⟨store.index.pairwise_keys, store.index.nodup_keys, fun key => Index.mem_keys_iff,
    ⟨later.pending, hall⟩, fun query => ?_, fun hproduced more hmore => ?_⟩
  · rw [step, hlater]
    exact congrArg Answer.cursor (KeyCursor.reply_ask hall query)
  · -- nothing is pending, so nothing is handed out and nothing will be pending
    have hnone : later.pending = [] := by
      rw [hproduced] at hall
      exact List.append_right_eq_self.1 hall
    obtain ⟨last, hlast, hrest⟩ := run_cursor hlater hmore
    rw [hnone] at hrest
    obtain ⟨hnothing, hleft⟩ := List.append_eq_nil_iff.1 hrest
    have hend : [] ++ last.pending = [] := hleft
    refine ⟨hnothing, ?_⟩
    rw [step, hlast]
    exact congrArg Answer.cursor (KeyCursor.reply_ask hend .next)

/-! ## Two cursors by turns -/

/-- Sets two keys. -/
def twoKeys : List Command :=
  [.openStore "s" { path := "heap" }, .store "s" (.set "b" "1"), .store "s" (.set "a" "2")]

/-- Asks a cursor, sets a third key, makes another cursor and asks it, compacts the store, closes it
and opens it again, and asks the first cursor again. -/
def byTurnsWithAnother : List Command :=
  [.cursor "c" .next, .store "s" (.set "aa" "3"), .store "s" (.iterate "d"), .store "s" .compact,
    .cursor "d" .next, .store "s" .close, .openStore "s" { path := "heap" }, .cursor "d" .next,
    .cursor "c" .next]

/-- The first cursor hands out the two keys, and none for ever. -/
theorem cursors_are_snapshots_byTurns :
    ∃ store made, (start.after twoKeys).stores.get? "s" = some store ∧
      ((start.after twoKeys).step (.store "s" (.iterate "c"))).2 = made ∧
      (∀ command ∈ byTurnsWithAnother, command.makes? ≠ some "c") ∧
      produced "c" (byTurnsWithAnother.zip (made.run byTurnsWithAnother)) = ["a", "b"] ∧
      ∀ more : List Command, (∀ command ∈ more, command.makes? ≠ some "c") →
        (((made.after byTurnsWithAnother).after more).step (.cursor "c" .next)).1 =
          .cursor (.next none 0) := by
  have hkept : ∀ command ∈ byTurnsWithAnother, command.makes? ≠ some "c" := by
    decide +kernel
  have hkeys : ((start.after twoKeys).stores.get? "s").map (·.index.keys) = some ["a", "b"] := by
    decide +kernel
  obtain ⟨store, hstore, hlive⟩ := Option.map_eq_some_iff.1 hkeys
  have hproduced : produced "c" (byTurnsWithAnother.zip
      (((start.after twoKeys).step (.store "s" (.iterate "c"))).2.run byTurnsWithAnother)) =
        ["a", "b"] := by
    decide +kernel
  obtain ⟨-, -, -, -, -, hforever⟩ := cursors_are_snapshots hstore rfl hkept
  exact ⟨store, _, hstore, rfl, hkept, hproduced, fun more hmore =>
    (hforever (hproduced.trans hlive.symm) more hmore).2⟩

end Session
end KeyLog
