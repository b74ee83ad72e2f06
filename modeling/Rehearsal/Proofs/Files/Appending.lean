import Rehearsal.EventLog

/-!
What event logs write. The file of a log that was opened is there for good: each event that can be
written adds its line to it, and one that cannot leaves it as it is.
-/

set_option autoImplicit false

namespace Rehearsal

/-! ## Files that grow -/

namespace Files

/-- A path leads to a file of some bytes, where no folder is. -/
def Holds (tree : Files) (path : Path) (bytes : ByteArray) : Prop :=
  ∃ names, tree.locate path = .ok names ∧ tree.isFolderAt path.root names = false ∧
    tree.files.get? (keyOf path.root names.reverse) = some bytes

variable {tree grown : Files} {path : Path} {bytes other : ByteArray}

theorem Holds.read (held : tree.Holds path bytes) : tree.read path = .ok bytes := by
  obtain ⟨names, located, -, kept⟩ := held
  rw [Files.read, located]
  simp only [Except.bind, bind, kept]
  rfl

theorem Holds.unique (held : tree.Holds path bytes) (alike : tree.Holds path other) :
    bytes = other :=
  Except.ok.inj (held.read.symm.trans alike.read)

/-- A way is made of folders, so files make no difference to one that leads somewhere. -/
theorem walk_of_files (files : Table ByteArray) {root : String} {names parts place : List String}
    (walked : tree.walk root names parts = .ok place) :
    { tree with files }.walk root names parts = .ok place := by
  induction parts generalizing names with
  | nil => exact walked
  | cons part rest ih =>
    have folder : { tree with files }.isFolderAt root names = tree.isFolderAt root names := rfl
    rw [walk] at walked ⊢
    rw [folder]
    cases stands : tree.isFolderAt root names with
    | false => simp [stands] at walked
    | true =>
      simp only [stands, Bool.not_true, Bool.false_eq_true, if_false] at walked ⊢
      split at walked
      next up =>
        rw [if_pos up]
        exact ih walked
      next down =>
        rw [if_neg down]
        split at walked
        · cases walked
        next short =>
          rw [if_neg short]
          exact ih walked

theorem locate_of_files (files : Table ByteArray) {names : List String}
    (located : tree.locate path = .ok names) :
    { tree with files }.locate path = .ok names := by
  unfold locate at located ⊢
  split at located
  · cases located
  next printable =>
    rw [if_neg printable]
    split at located
    · cases located
    next short =>
      rw [if_neg short]
      cases walked : tree.walk path.root [] path.parts with
      | error kind =>
        rw [walked] at located
        cases located
      | ok place =>
        rw [walk_of_files files walked]
        rwa [walked] at located

theorem holds_of_append (appended : tree.append path bytes = .ok grown) :
    grown.Holds path ((tree.read path).toOption.getD ByteArray.empty ++ bytes) := by
  unfold append at appended
  cases located : tree.locate path with
  | error fault => simp [located, bind, Except.bind] at appended
  | ok names =>
    simp only [located, bind, Except.bind, write] at appended
    split at appended
    · cases appended
    next apart =>
      cases appended
      refine ⟨names, locate_of_files _ located, Bool.eq_false_iff.mpr apart, ?_⟩
      have before : (tree.read path).toOption = tree.files.get? (keyOf path.root names.reverse) := by
        rw [Files.read, located]
        simp only [bind, Except.bind]
        cases tree.files.get? (keyOf path.root names.reverse) <;> rfl
      rw [Table.get?_put, before]
      simp

theorem Holds.append (held : tree.Holds path bytes) (more : ByteArray) :
    ∃ grown, tree.append path more = .ok grown ∧ grown.Holds path (bytes ++ more) := by
  obtain ⟨names, located, apart, kept⟩ := id held
  have appended : ∃ grown, tree.append path more = .ok grown := by
    simp [Files.append, write, located, apart, bind, Except.bind, pure, Except.pure]
  obtain ⟨grown, appended⟩ := appended
  have holds := holds_of_append appended
  rw [held.read] at holds
  exact ⟨grown, appended, holds⟩

end Files

/-! ## Lines -/

def Event.isWritable (event : Event) (run : String) (step : Nat) : Bool :=
  (Datum.object (event.fields run step)).isWritable

namespace EventLog

def next (log : EventLog) : EventLog := { log with steps := log.steps + 1 }

def entry (log : EventLog) (event : Event) : String :=
  if event.isWritable log.run (log.steps + 1) then event.line log.run (log.steps + 1) else ""

/-- What a log has written when it was given events one after the other. -/
def written (log : EventLog) : List Event -> String
  | [] => ""
  | event :: rest => log.entry event ++ log.next.written rest

variable {log : EventLog} {event : Event} {events : List Event}

theorem add_of_holds {files : Files} {bytes : ByteArray} (held : files.Holds log.file bytes)
    (event : Event) :
    (event.isWritable log.run (log.steps + 1) = true ∧ ∃ grown,
        log.add event files = (log.next, .ok grown) ∧
        grown.Holds log.file (bytes ++ (log.entry event).toUTF8)) ∨
      (event.isWritable log.run (log.steps + 1) = false ∧
        log.add event files = (log.next, .error Fault.oversizedInt) ∧ log.entry event = "") := by
  cases writable : event.isWritable log.run (log.steps + 1) with
  | true =>
    obtain ⟨grown, appended, holds⟩ := held.append (event.line log.run (log.steps + 1)).toUTF8
    refine .inl ⟨rfl, grown, ?_, ?_⟩
    · unfold Event.isWritable at writable
      simp only [add, next, Datum.checkWritable, writable, if_true]
      rw [← appended]
      rfl
    · rw [entry, if_pos writable]
      exact holds
  | false =>
    refine .inr ⟨rfl, ?_, by simp [entry, writable]⟩
    unfold Event.isWritable at writable
    simp only [add, next, Datum.checkWritable, writable, Bool.false_eq_true, if_false]
    rfl

theorem written_append (log : EventLog) (events later : List Event) :
    log.written (events ++ later) =
      log.written events ++ { log with steps := log.steps + events.length }.written later := by
  induction events generalizing log with
  | nil => simp [written]
  | cons event rest ih =>
    have numbered : log.steps + 1 + rest.length = log.steps + (rest.length + 1) := by omega
    simp [written, ih, next, String.append_assoc, numbered]

end EventLog

end Rehearsal
