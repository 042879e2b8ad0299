import KeyLog.Proofs.Session.Canonical
import KeyLog.Proofs.Session.Compaction
import KeyLog.Proofs.Session.Twins
import KeyLog.Proofs.Volume.Housed

/-!
# Stores side by side

Two tenants have a store each, at paths of their own, and do what they like in any order.  They
share the volume, and a compaction makes a file beside the log, which it empties if it is there
already, and renames or removes later.  As long as neither path is the temporary name of the other,
neither tenant notices that the other is there.

* `Session.Tenant`: somebody with a store, a path and some cursors.
* `Tenant.sees`: his commands in a run, with what came of them.
* `Session.Alongside`: a session that he shares is to him like one of his own.  His own commands go
  on like this (`Alongside.step`), and so do those of others (`Alongside.elsewhere`).
* `Session.stores_do_not_interfere`: hence each sees of a run what he would see if he were alone.
* `Session.stores_interfere_beside`: a store at the temporary name of another one is destroyed.
-/

namespace KeyLog
namespace Session

open Compaction (temporaryPath)

/-! ## Tenants -/

/-- Somebody who has one store at a time, under a name and at a path, and cursors of some names. -/
structure Tenant where
  name : String
  path : String
  cursors : List String

/-- Whether a command is one of a tenant's.  The size limit is everybody's. -/
def Tenant.does (tenant : Tenant) (command : Command) : Bool :=
  command.cursor?.all tenant.cursors.contains &&
    match command with
    | .limit _ | .cursor _ _ => true
    | .openStore handle settings => handle == tenant.name && settings.path == tenant.path
    | .store handle _ => handle == tenant.name
    | .verify text => text == tenant.path
    | _ => false

/-- What a tenant sees of a run: his commands, with what came of them. -/
def Tenant.sees (tenant : Tenant) (session : Session) (commands : List Command) :
    List (Command × Answer) :=
  (commands.zip (session.run commands)).filter fun step => tenant.does step.1

variable {session shared alone alone' : Session} {tenant first second : Tenant}
  {own own' : Path → Prop} {pairs pairs' more : Nat → Nat → Prop} {command : Command}
  {commands : List Command}

theorem Tenant.cursor_of_does (h : tenant.does command = true) (cursor : String)
    (hcursor : command.cursor? = some cursor) : cursor ∈ tenant.cursors := by
  have hall := (Bool.and_eq_true _ _ ▸ h).1
  rw [hcursor] at hall
  exact List.contains_iff_mem.1 hall

theorem Tenant.own_of_does (h : tenant.does command = true) :
    command.Own tenant.name tenant.path := by
  have hown := (Bool.and_eq_true _ _ ▸ h).2
  cases command with
  | limit | cursor => exact ⟨trivial, fun _ heq => nomatch heq⟩
  | openStore handle settings =>
    rw [Bool.and_eq_true] at hown
    exact ⟨⟨beq_iff_eq.1 hown.1, beq_iff_eq.1 hown.2⟩, fun _ heq => nomatch heq⟩
  | store handle command => exact ⟨beq_iff_eq.1 hown, fun _ heq => nomatch heq⟩
  | verify text =>
    refine ⟨trivial, ?_⟩
    rintro _ ⟨⟩
    exact beq_iff_eq.1 hown
  | disk | openFile | file | foreign | commandLine => cases hown

theorem Tenant.sees_cons_of_does (h : tenant.does command = true) (session : Session)
    (commands : List Command) :
    tenant.sees session (command :: commands) =
      (command, (session.step command).1) :: tenant.sees (session.step command).2 commands :=
  List.filter_cons_of_pos h

theorem Tenant.sees_cons_of_not_does (h : ¬ tenant.does command = true) (session : Session)
    (commands : List Command) :
    tenant.sees session (command :: commands) =
      tenant.sees (session.step command).2 commands :=
  List.filter_cons_of_neg h

/-- Two tenants have nothing in common. -/
structure Strangers (first second : Tenant) : Prop where
  names : first.name ≠ second.name
  paths : first.path ≠ second.path
  cursors : ∀ cursor ∈ first.cursors, cursor ∉ second.cursors

theorem Strangers.symm (h : Strangers first second) : Strangers second first :=
  ⟨h.names.symm, h.paths.symm, fun cursor hsecond hfirst => h.cursors cursor hfirst hsecond⟩

/-- Only the size limit is a command of both. -/
theorem Strangers.eq_limit (h : Strangers first second) (hfirst : first.does command = true)
    (hsecond : second.does command = true) : ∃ limit, command = .limit limit := by
  have hown := first.own_of_does hfirst
  have hown' := second.own_of_does hsecond
  cases command with
  | limit limit => exact ⟨limit, rfl⟩
  | openStore handle settings => exact absurd (hown.sole.1.symm.trans hown'.sole.1) h.names
  | store handle command =>
    have hname : handle = first.name := hown.sole
    exact absurd (hname.symm.trans hown'.sole) h.names
  | verify text => exact absurd ((hown.verify text rfl).symm.trans (hown'.verify text rfl)) h.paths
  | cursor cursor query =>
    exact absurd (second.cursor_of_does hsecond cursor rfl)
      (h.cursors cursor (first.cursor_of_does hfirst cursor rfl))
  | disk | openFile | file | foreign | commandLine => exact hown.sole.elim

/-! ## A session that is shared -/

/-- A command touches no store of another name and no cursor but its own, and only one that sets the
size limit sets it. -/
theorem step_elsewhere {name path : String} (session : Session) (hown : command.Own name path)
    (hlimit : ∀ limit, command ≠ .limit limit) :
    (session.step command).2.limit = session.limit ∧
      (∀ other, other ≠ name →
        (session.step command).2.stores.get? other = session.stores.get? other) ∧
      ∀ cursor, command.cursor? ≠ some cursor →
        (session.step command).2.cursors.get? cursor = session.cursors.get? cursor := by
  suffices hrest : (session.step command).2.limit = session.limit ∧ ∀ other, other ≠ name →
      (session.step command).2.stores.get? other = session.stores.get? other from
    ⟨hrest.1, hrest.2, fun cursor => cursors_step session⟩
  cases command with
  | limit limit => exact absurd rfl (hlimit limit)
  | openStore handle settings =>
    obtain ⟨rfl, -⟩ := hown.sole
    simp only [step, openStore]
    split
    · exact ⟨rfl, fun _ _ => rfl⟩
    · exact ⟨rfl, fun other hother => Handles.get?_assign_of_ne _ hother _⟩
  | store handle command =>
    obtain rfl : handle = name := hown.sole
    simp only [step]
    split
    · exact ⟨rfl, fun _ _ => rfl⟩
    next store _ =>
      cases command with
      | get | set | compact =>
        exact ⟨rfl, fun other hother => Handles.get?_assign_of_ne _ hother _⟩
      | contains | keys | info | iterate => exact ⟨rfl, fun _ _ => rfl⟩
      | close => exact ⟨rfl, fun other hother => Handles.get?_release_of_ne _ hother⟩
  | verify text => exact ⟨rfl, fun _ _ => rfl⟩
  | cursor name query =>
    simp only [step]
    split
    · exact ⟨rfl, fun _ _ => rfl⟩
    · exact ⟨rfl, fun _ _ => rfl⟩
  | disk | openFile | file | foreign | commandLine => exact hown.sole.elim

/-- A session that a tenant shares with others is to him like one that he has for himself. -/
def Alongside (shared alone : Session) (tenant : Tenant) (own : Path → Prop)
    (pairs : Nat → Nat → Prop) : Prop :=
  Matched (fun pairs _ => Volume.Housed tenant.path (temporaryPath tenant.path) own pairs)
    (· ∈ tenant.cursors) shared alone tenant.name tenant.path pairs

/-- **A command of the tenant** has the same answer in both sessions, and what it does is confined
to his places. -/
theorem Alongside.step (h : shared.Alongside alone tenant own pairs)
    (hdoes : tenant.does command = true) :
    (shared.step command).1 = (alone.step command).1 ∧
      ∃ more, (shared.step command).2.Alongside (alone.step command).2 tenant own more ∧
        Volume.Confined own pairs shared.volume more (shared.step command).2.volume := by
  have hbusy : Matched
      (Volume.Busy tenant.path (temporaryPath tenant.path) own pairs shared.volume)
      (· ∈ tenant.cursors) shared alone tenant.name tenant.path pairs :=
    ⟨h.volume.busy, h.limit, h.cursors, h.store⟩
  obtain ⟨hanswer, more, hafter⟩ :=
    hbusy.step Volume.busy_matching (tenant.own_of_does hdoes) (tenant.cursor_of_does hdoes)
  exact ⟨hanswer, more, ⟨hafter.volume.toHoused, hafter.limit, hafter.cursors, hafter.store⟩,
    hafter.volume.confined⟩

/-- **A command of somebody else** goes unnoticed, if it is confined to other places. -/
theorem Alongside.elsewhere (h : shared.Alongside alone tenant own pairs) {other : Tenant}
    (hstrangers : Strangers tenant other) (hdoes : other.does command = true)
    (hlimit : ∀ limit, command ≠ .limit limit)
    (hconfined : Volume.Confined own' pairs' shared.volume more (shared.step command).2.volume)
    (hplaces : ∀ place, own place → ¬ own' place) (hpairs : ∀ x y y', pairs x y → ¬ pairs' x y') :
    (shared.step command).2.Alongside alone tenant own pairs := by
  obtain ⟨hsame, hstores, hcursors⟩ :=
    step_elsewhere shared (other.own_of_does hdoes) hlimit
  refine ⟨h.volume.confined hconfined hplaces hpairs, hsame.trans h.limit, ?_, ?_⟩
  · intro cursor hcursor
    have hnot : command.cursor? ≠ some cursor := fun heq =>
      hstrangers.cursors cursor hcursor (other.cursor_of_does hdoes cursor heq)
    rw [hcursors cursor hnot, h.cursors cursor hcursor]
  · rw [hstores tenant.name hstrangers.names]
    exact h.store

/-! ## Two tenants of one session -/

/-- A session is to each of two tenants like one of his own, and no object is of both. -/
def SideBySide (shared alone alone' : Session) (first second : Tenant) (own own' : Path → Prop) :
    Prop :=
  ∃ pairs pairs', shared.Alongside alone first own pairs ∧
    shared.Alongside alone' second own' pairs' ∧ ∀ x y y', pairs x y → ¬ pairs' x y'

theorem SideBySide.symm (h : SideBySide shared alone alone' first second own own') :
    SideBySide shared alone' alone second first own' own := by
  obtain ⟨pairs, pairs', hfirst, hsecond, hpairs⟩ := h
  exact ⟨pairs', pairs, hsecond, hfirst, fun x y y' hpair hpair' => hpairs x y' y hpair' hpair⟩

/-- The first tenant does something. -/
theorem SideBySide.step (h : SideBySide shared alone alone' first second own own')
    (hstrangers : Strangers first second) (hplaces : ∀ place, own place → ¬ own' place)
    (hfirst : first.does command = true) (hsecond : ¬ second.does command = true) :
    (shared.step command).1 = (alone.step command).1 ∧
      SideBySide (shared.step command).2 (alone.step command).2 alone' first second own own' := by
  obtain ⟨pairs, pairs', halongside, halongside', hpairs⟩ := h
  obtain ⟨hanswer, more, hafter, hconfined⟩ := halongside.step hfirst
  have hlimit : ∀ limit, command ≠ .limit limit := by
    rintro limit rfl
    exact hsecond rfl
  have helsewhere := halongside'.elsewhere hstrangers.symm hfirst hlimit hconfined
    (fun place hplace' hplace => hplaces place hplace hplace')
    fun x y y' hpair' hpair => hpairs x y' y hpair hpair'
  refine ⟨hanswer, more, pairs', hafter, helsewhere, ?_⟩
  intro x y y' hmore hpair'
  rcases hconfined.pairs x y hmore with hpair | hnew
  · exact hpairs x y y' hpair hpair'
  · -- an object that is new is nobody else's
    exact absurd (halongside'.volume.known x y' hpair').1 (Nat.not_lt.2 hnew)

/-- The size limit is set for both. -/
theorem SideBySide.step_limit (h : SideBySide shared alone alone' first second own own')
    (limit : Option Nat) :
    SideBySide (shared.step (.limit limit)).2 (alone.step (.limit limit)).2
      (alone'.step (.limit limit)).2 first second own own' := by
  obtain ⟨pairs, pairs', halongside, halongside', hpairs⟩ := h
  exact ⟨pairs, pairs', ⟨halongside.volume, rfl, halongside.cursors, halongside.store⟩,
    ⟨halongside'.volume, rfl, halongside'.cursors, halongside'.store⟩, hpairs⟩

/-- **A run of both tenants** is to each of them like a run of his own commands. -/
theorem SideBySide.run (h : SideBySide shared alone alone' first second own own')
    (hstrangers : Strangers first second) (hplaces : ∀ place, own place → ¬ own' place)
    (hdoes : ∀ command ∈ commands, first.does command = true ∨ second.does command = true) :
    first.sees shared commands = first.sees alone (commands.filter first.does) ∧
      second.sees shared commands = second.sees alone' (commands.filter second.does) ∧
      SideBySide (shared.after commands) (alone.after (commands.filter first.does))
        (alone'.after (commands.filter second.does)) first second own own' := by
  induction commands generalizing shared alone alone' with
  | nil => exact ⟨rfl, rfl, h⟩
  | cons command commands ih =>
    have hlater : ∀ other ∈ commands, first.does other = true ∨ second.does other = true :=
      fun other hother => hdoes other (List.mem_cons_of_mem _ hother)
    by_cases hfirst : first.does command = true
    · by_cases hsecond : second.does command = true
      · obtain ⟨limit, rfl⟩ := hstrangers.eq_limit hfirst hsecond
        obtain ⟨hsees, hsees', hlast⟩ := ih (h.step_limit limit) hlater
        rw [List.filter_cons_of_pos hfirst, List.filter_cons_of_pos hsecond,
          first.sees_cons_of_does hfirst, first.sees_cons_of_does hfirst,
          second.sees_cons_of_does hsecond, second.sees_cons_of_does hsecond, hsees, hsees']
        exact ⟨rfl, rfl, hlast⟩
      · obtain ⟨hanswer, hnext⟩ := h.step hstrangers hplaces hfirst hsecond
        obtain ⟨hsees, hsees', hlast⟩ := ih hnext hlater
        rw [List.filter_cons_of_pos hfirst, List.filter_cons_of_neg hsecond,
          first.sees_cons_of_does hfirst, first.sees_cons_of_does hfirst,
          second.sees_cons_of_not_does hsecond, hanswer, hsees, hsees']
        exact ⟨rfl, rfl, hlast⟩
    · have hsecond : second.does command = true :=
        (hdoes command List.mem_cons_self).resolve_left hfirst
      obtain ⟨hanswer, hnext⟩ := h.symm.step hstrangers.symm
        (fun place hplace' hplace => hplaces place hplace hplace') hsecond hfirst
      obtain ⟨hsees, hsees', hlast⟩ := ih hnext.symm hlater
      rw [List.filter_cons_of_neg hfirst, List.filter_cons_of_pos hsecond,
        first.sees_cons_of_not_does hfirst, second.sees_cons_of_does hsecond,
        second.sees_cons_of_does hsecond, hanswer, hsees, hsees']
      exact ⟨rfl, rfl, hlast⟩

/-! ## Neighbours -/

/-- The places that a store needs: that of its log and that of its drafts. -/
def homes (directory : Path) (name : String) (place : Path) : Prop :=
  place = directory ++ [name] ∨ place = directory ++ [temporaryPath name]

/-- Two tenants are about to open stores at paths that lead to different names.  Neither of these is
the temporary name of the other. -/
structure Neighbours (session : Session) (first second : Tenant) : Prop where
  /-- This holds of every session that began on an empty volume (`sound_of_start`). -/
  sound : session.volume.Sound
  closed : session.stores.get? first.name = none ∧ session.stores.get? second.name = none
  names : first.name ≠ second.name
  cursors : ∀ cursor ∈ first.cursors, cursor ∉ second.cursors
  paths : ∃ directory name directory' name',
    session.volume.locate first.path = .ok (.name (directory ++ [name]) false) ∧
    session.volume.locate second.path = .ok (.name (directory' ++ [name']) false) ∧
    directory ++ [name] ≠ directory' ++ [name'] ∧
    directory ++ [temporaryPath name] ≠ directory' ++ [name'] ∧
    directory ++ [name] ≠ directory' ++ [temporaryPath name']

/-- A path and its temporary name lead to the places that its store needs. -/
theorem owns_homes {volume : Volume} {path name : String} {directory : Path}
    (h : volume.locate path = .ok (.name (directory ++ [name]) false)) :
    volume.Owns (homes directory name) path ∧
      volume.Owns (homes directory name) (temporaryPath path) := by
  constructor
  · refine ⟨_, Volume.settled_of_locate h, ?_⟩
    rintro place asDirectory ⟨⟩
    exact .inl rfl
  · obtain ⟨result, hsettled, hplace⟩ :=
      Volume.settled_append_of_locate (show '/' ∉ ".compact".toList by decide) (by decide) h
    exact ⟨result, hsettled, fun place asDirectory heq => .inr (hplace place asDirectory heq)⟩

/-- Different names have different temporary names. -/
theorem temporary_ne {directory directory' : Path} {name name' : String}
    (h : directory ++ [name] ≠ directory' ++ [name']) :
    directory ++ [temporaryPath name] ≠ directory' ++ [temporaryPath name'] := by
  intro heq
  obtain ⟨rfl, hlast⟩ := List.append_inj' heq rfl
  have hname : name ++ ".compact" = name' ++ ".compact" := (List.cons.inj hlast).1
  exact h (by rw [(String.append_left_inj _).1 hname])

/-- A tenant finds in a session what he finds there alone. -/
theorem alongside_self (hsound : session.volume.Sound)
    (hclosed : session.stores.get? tenant.name = none)
    (htarget : session.volume.Owns own tenant.path)
    (hbeside : session.volume.Owns own (temporaryPath tenant.path)) :
    session.Alongside session tenant own (session.volume.standing own) := by
  refine ⟨hsound.housed htarget hbeside, rfl, fun _ _ => rfl, ?_⟩
  rw [hclosed]
  exact .none

/-- **Stores at different places do not interfere.**  Two paths are given that lead to distinct
places, in one directory or in two, neither of which is the place of the other's temporary name.
Whatever the tenants do there in any order, each sees what he would see alone, and the bytes at his
path are those that he would leave there alone. -/
theorem stores_do_not_interfere (h : session.Neighbours first second)
    (hdoes : ∀ command ∈ commands, first.does command = true ∨ second.does command = true) :
    ∀ tenant ∈ [first, second],
      tenant.sees session commands = tenant.sees session (commands.filter tenant.does) ∧
        (session.after commands).volume.bytesAt? tenant.path =
          (session.after (commands.filter tenant.does)).volume.bytesAt? tenant.path := by
  obtain ⟨directory, name, directory', name', hlocate, hlocate', hnames, hbeside, hbeside'⟩ :=
    h.paths
  have hplaces : ∀ place, homes directory name place → ¬ homes directory' name' place := by
    rintro place (rfl | rfl) (heq | heq)
    · exact hnames heq
    · exact hbeside' heq
    · exact hbeside heq
    · exact temporary_ne hnames heq
  have hstrangers : Strangers first second := by
    refine ⟨h.names, fun heq => ?_, h.cursors⟩
    rw [heq] at hlocate
    exact hnames (Volume.Place.name.inj (Except.ok.inj (hlocate.symm.trans hlocate'))).1
  have hbegin : SideBySide session session session first second (homes directory name)
      (homes directory' name') :=
    ⟨_, _, alongside_self h.sound h.closed.1 (owns_homes hlocate).1 (owns_homes hlocate).2,
      alongside_self h.sound h.closed.2 (owns_homes hlocate').1 (owns_homes hlocate').2,
      fun _ _ _ => h.sound.not_standing hplaces⟩
  obtain ⟨hsees, hsees', pairs, pairs', hafter, hafter', -⟩ := hbegin.run hstrangers hplaces hdoes
  intro tenant htenant
  rcases List.mem_pair.1 htenant with rfl | rfl
  · exact ⟨hsees, Volume.busy_matching.bytesAt? hafter.volume.busy⟩
  · exact ⟨hsees', Volume.busy_matching.bytesAt? hafter'.volume.busy⟩

/-! ## Two stores in one directory -/

/-- Keeps a store at `heap`. -/
def heapTenant : Tenant := ⟨"s", "heap", ["c"]⟩

/-- Keeps a store at another path of the directory. -/
def neighbour (path : String) : Tenant := ⟨"t", path, ["d"]⟩

/-- Both tenants write and compact, the limit changes, and one of them closes the store and opens it
again. -/
def byTurns : List Command :=
  [.openStore "s" { path := "heap" }, .openStore "t" { path := "spare" }, .store "s" (.set "a" "1"),
    .store "t" (.set "a" "2"), .store "s" .compact, .limit (some 30), .store "t" (.iterate "d"),
    .store "t" (.set "b" "3"), .store "s" .close, .store "t" .compact,
    .openStore "s" { path := "heap" }, .cursor "d" .next, .store "s" (.get "a")]

/-- The second tenant sees nothing of the first one's compaction, and finds his own bytes. -/
theorem stores_do_not_interfere_byTurns :
    start.Neighbours heapTenant (neighbour "spare") ∧
      (∀ command ∈ byTurns, heapTenant.does command = true ∨
        (neighbour "spare").does command = true) ∧
      ((neighbour "spare").sees start byTurns).length = 7 ∧
      (neighbour "spare").sees start byTurns =
        (neighbour "spare").sees start (byTurns.filter (neighbour "spare").does) ∧
      ((start.after byTurns).volume.bytesAt? "spare").map List.length = some 22 ∧
      (start.after byTurns).volume.bytesAt? "spare" =
        (start.after (byTurns.filter (neighbour "spare").does)).volume.bytesAt? "spare" := by
  have hneighbours : start.Neighbours heapTenant (neighbour "spare") := by
    refine ⟨Volume.sound_empty, ⟨rfl, rfl⟩, by decide, by decide, [], "heap", [], "spare", ?_⟩
    decide +kernel
  have hdoes : ∀ command ∈ byTurns, heapTenant.does command = true ∨
      (neighbour "spare").does command = true := by
    decide +kernel
  obtain ⟨hsees, hbytes⟩ :=
    stores_do_not_interfere hneighbours hdoes (neighbour "spare")
      (List.mem_cons_of_mem _ List.mem_cons_self)
  exact ⟨hneighbours, hdoes, by decide +kernel, hsees, by decide +kernel, hbytes⟩

/-- Each tenant writes a key, the second one under the temporary name of the first.  The first one
compacts, and the second one looks his key up. -/
def beside : List Command :=
  [.openStore "s" { path := "heap" }, .openStore "t" { path := "heap.compact" },
    .store "t" (.set "k" "v"), .store "s" (.set "a" "1"), .store "s" .compact,
    .store "t" (.get "k")]

/-- The compaction of the first store goes over the log of the second one, whose key and file are
gone.  Alone the second tenant would find both. -/
theorem stores_interfere_beside :
    start.volume.locate "heap" = .ok (.name ["heap"] false) ∧
      start.volume.locate "heap.compact" = .ok (.name ["heap.compact"] false) ∧
      (∀ command ∈ beside, heapTenant.does command = true ∨
        (neighbour "heap.compact").does command = true) ∧
      ((neighbour "heap.compact").sees start beside).map (fun step => step.2.isOk) =
        [true, true, false] ∧
      ((neighbour "heap.compact").sees start
        (beside.filter (neighbour "heap.compact").does)).map (fun step => step.2.isOk) =
          [true, true, true] ∧
      (start.after beside).lookupError "t" "k" = some (.corruption 0 (.wrongKey "k" "a")) ∧
      (start.after beside).volume.bytesAt? "heap.compact" = none ∧
      ((start.after (beside.filter (neighbour "heap.compact").does)).volume.bytesAt?
        "heap.compact").map List.length = some 11 := by
  decide +kernel

end Session
end KeyLog
