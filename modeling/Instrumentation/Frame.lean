import Instrumentation.Identifier
import Instrumentation.Json.Decode

/-!
# Captured frames

The values captured at a patch point stand in three scopes: local variables, fields of the
receiver, and static fields of the unit. A bare name means the first scope that has it; each
scope is also addressed as a whole by a root name.

The store of frames holds at most one frame for each instrument.
-/

namespace Instrumentation

/-- A scope of captured values. -/
inductive Scope where
  /-- The local variables. -/
  | locals
  /-- The fields of the receiver. -/
  | fields
  /-- The static fields of the unit. -/
  | statics
deriving DecidableEq, Inhabited

/-- The scope that a root name addresses. -/
def Scope.ofRoot? (name : String) : Option Scope :=
  if name = "localVariables" then some .locals
  else if name = "fields" then some .fields
  else if name = "staticFields" then some .statics
  else none

/-- The values captured at a patch point. -/
structure Frame where
  /-- The local variables. -/
  locals : Dict Json
  /-- The fields of the receiver. -/
  fields : Dict Json
  /-- The static fields of the unit. -/
  statics : Dict Json
deriving Inhabited

namespace Frame

/-- The frame without values. -/
def empty : Frame := ⟨.empty, .empty, .empty⟩

/-- The values of a scope. -/
def scope (f : Frame) : Scope → Dict Json
  | .locals => f.locals
  | .fields => f.fields
  | .statics => f.statics

/-- The value of a bare name: that of the locals, else of the fields, else of the statics. -/
def resolve? (f : Frame) (name : String) : Option Json :=
  f.locals.get? name <|> f.fields.get? name <|> f.statics.get? name

/-- The absence of values. -/
def isEmpty (f : Frame) : Bool := f.locals.isEmpty && f.fields.isEmpty && f.statics.isEmpty

/-- The frame with a value put into a scope. -/
def put (f : Frame) (s : Scope) (name : String) (v : Json) : Frame :=
  match s with
  | .locals => { f with locals := f.locals.insert name v }
  | .fields => { f with fields := f.fields.insert name v }
  | .statics => { f with statics := f.statics.insert name v }

/-- A frame as a JSON value. -/
def toJson (f : Frame) : Json :=
  Json.ofMembers
    [("localVariables", .object f.locals), ("fields", .object f.fields),
      ("staticFields", .object f.statics)]

/-- What messages call a frame, and its scopes. -/
def shape : Shape :=
  { name := "struct CaptureContext", fields := ["localVariables", "fields", "staticFields"] }

/-- The problem of a given scope. -/
def problem (_ : Fields) : String → Decoder Unit
  | "localVariables", v => Decoder.passes Decoder.members v
  | "fields", v => Decoder.passes Decoder.members v
  | "staticFields", v => Decoder.passes Decoder.members v
  | _, _ => .ok ()

/-- A frame from a JSON value. Absent scopes are empty. -/
def decode : Decoder Frame :=
  Decoder.record .direct shape problem fun fs => do
    let locals ← fs.orElse "localVariables" Decoder.members .empty
    let fields ← fs.orElse "fields" Decoder.members .empty
    let statics ← fs.orElse "staticFields" Decoder.members .empty
    return { locals, fields, statics }

end Frame

/-- The local variable that holds the value a method returns. -/
def returnVariable : String := "@return"

/-- The frames captured for instruments. -/
structure FrameStore where
  /-- The frames by instrument. -/
  frames : Dict Frame
deriving Inhabited

namespace FrameStore

/-- The store without frames. -/
def empty : FrameStore := ⟨.empty⟩

/-- The frame of an instrument, without values if nothing was captured. -/
def get (s : FrameStore) (id : InstrumentId) : Frame := (s.frames.get? id).getD .empty

/-- The store with a value put into the frame of an instrument. -/
def put (s : FrameStore) (id : InstrumentId) (scope : Scope) (name : String) (v : Json) :
    FrameStore :=
  ⟨s.frames.insert id ((s.get id).put scope name v)⟩

/-- The store with the value that a method returns. -/
def putReturn (s : FrameStore) (id : InstrumentId) (v : Json) : FrameStore :=
  s.put id .locals returnVariable v

/-- The store without the frame of an instrument. -/
def clear (s : FrameStore) (id : InstrumentId) : FrameStore := ⟨s.frames.erase id⟩

/-- The frame of an instrument, if one was captured, and the store without it. -/
def take (s : FrameStore) (id : InstrumentId) : Option Frame × FrameStore :=
  (s.frames.get? id, s.clear id)

/-- The number of frames. -/
def size (s : FrameStore) : Nat := s.frames.size

end FrameStore

end Instrumentation
