import Instrumentation.Engine.Control
import Instrumentation.Proofs.Registry

/-!
# Views of an engine

The view of an engine is the registry, the deferred installs and the history, which is the journal
without the log. The time, the captured frames and the channel are not in it, so that logging, or
the passing of time, leaves the view as it is.
-/

namespace Instrumentation

namespace Entry

/-- The entry is a call, an answer or an event. -/
def isSeen : Entry → Bool
  | logged _ => false
  | _ => true

/-- The registration an entry is about, if it is about one. -/
def serial? : Entry → Option Nat
  | asked serial _ => some serial
  | answered serial _ _ => some serial
  | published serial _ => serial
  | logged _ => none

end Entry

namespace Call

/-- The entry that a call was made. -/
abbrev asked (call : Call) : Entry := .asked call.registration.serial call.request

/-- The entry that a call was answered. -/
abbrev answered (call : Call) (answer : call.request.Answer) : Entry :=
  .answered call.registration.serial call.request answer

end Call

/-- What matters of an engine for the life of its instruments. -/
structure View where
  /-- The registered instruments. -/
  registry : Registry
  /-- The deferred installs. -/
  retries : RetryQueue
  /-- The calls, the answers and the events, the oldest first. -/
  history : List Entry

namespace View

/-- The view with more entries in its history. -/
def add (v : View) (entries : List Entry) : View := { v with history := v.history ++ entries }

/-- An entry more leaves the registered instruments. -/
@[simp]
theorem registry_add (v : View) (entries : List Entry) :
  (v.add entries).registry = v.registry
  := rfl

/-- An entry more leaves the deferred installs. -/
@[simp]
theorem retries_add (v : View) (entries : List Entry) :
  (v.add entries).retries = v.retries
  := rfl

/-- An entry more is the last one. -/
@[simp]
theorem history_add (v : View) (entries : List Entry) :
  (v.add entries).history = v.history ++ entries
  := rfl

/-- No entry more. -/
@[simp]
theorem add_nil (v : View) :
  v.add [] = v
  := by
  simp [add]

/-- Entries that are added one after another are added together. -/
@[simp]
theorem add_add (v : View) (es fs : List Entry) :
  (v.add es).add fs = v.add (es ++ fs)
  := by
  simp [add]

end View

namespace Engine

/-- The calls, the answers and the events, the oldest first. -/
def history (e : Engine) : List Entry := e.journal.toList.filter Entry.isSeen

/-- The view of an engine. -/
def view (e : Engine) : View :=
  { registry := e.registry, retries := e.retries, history := e.history }

/-- An engine is seen with the history it has. -/
@[simp]
theorem view_history (e : Engine) :
  e.view.history = e.history
  := rfl

/-- The view of an engine with an entry more in its journal. -/
theorem view_note (e : Engine) (entry : Entry) (seen : entry.isSeen = true) :
  (e.note entry).view = e.view.add [entry]
  := by
  simp [view, View.add, history, note, seen]

/-- A call is seen. -/
@[simp]
theorem view_note_asked (e : Engine) (call : Call) :
  (e.note call.asked).view = e.view.add [call.asked]
  := e.view_note _ rfl

/-- An answer is seen. -/
@[simp]
theorem view_note_answered (e : Engine) (call : Call) (answer : call.request.Answer) :
  (e.note (call.answered answer)).view = e.view.add [call.answered answer]
  := e.view_note _ rfl

/-- A record is not seen. -/
@[simp]
theorem view_log (e : Engine) (level : Level) (message : String)
    (fields : List (String × String)) :
  (e.log level message fields).view = e.view
  := by
  simp [view, history, log, note, Entry.isSeen]

/-- An event is seen. -/
@[simp]
theorem view_publish (e : Engine) (serial : Option Nat) (event : Event) :
  (e.publish serial event).view = e.view.add [.published serial event]
  := by
  rw [← e.view_note (.published serial event) rfl, publish]
  cases (e.note (.published serial event)).emitter with
  | none => rfl
  | some m => apply (e.note (.published serial event)).view_log

/-- An event takes no time. -/
@[simp]
theorem clock_publish (e : Engine) (serial : Option Nat) (event : Event) :
  (e.publish serial event).clock = e.clock
  := by
  rw [publish]
  cases (e.note (.published serial event)).emitter with
  | none => rfl
  | some m => rfl

end Engine

end Instrumentation
