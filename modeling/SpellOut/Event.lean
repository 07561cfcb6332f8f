import SpellOut.Abstention
import SpellOut.Draft

/-! Events: what is logged of an attempt to spell out a type. An event has a level and fields, each
a name with a text, of which the first is its message. -/
namespace SpellOut

inductive Level where
  | trace
  | debug
  | warn
deriving DecidableEq

def Level.text : Level → String
  | trace => "TRACE"
  | debug => "DEBUG"
  | warn => "WARN"

inductive Event where
  /-- Something was noted while a type was spelled. -/
  | note (n : Note)
  /-- The host broke down. -/
  | fault (id : NodeId) (stage : Stage) (message : String)
  /-- The declaration was replaced by this one. -/
  | applied (id : NodeId) (replacement : Declaration)
  /-- The declaration was left as it is. -/
  | abstained (id : NodeId) (stage : Stage) (reason : Abstention)
deriving DecidableEq

namespace Event

def level : Event → Level
  | note _ => .trace
  | fault _ _ _ => .warn
  | applied _ _ => .debug
  | abstained _ _ _ => .debug

def fields : Event → List (String × String)
  | note (.staged site type) =>
    [("message", "staged import"), ("site", toString site), ("import", type.text)]
  | note (.spelled site type spelling) =>
    [("message", "chose rendering"), ("site", toString site), ("qualified", type.text),
     ("rendering", spelling.text)]
  | fault id stage message =>
    [("message", "fault while rewriting"), ("node", toString id), ("stage", stage.text),
     ("message", message)]
  | applied id replacement =>
    [("message", "applied"), ("node", toString id), ("declaration", replacement.text)]
  | abstained id stage reason =>
    [("message", "abstained"), ("node", toString id), ("stage", stage.text),
     ("reason", reason.message)]

end Event

end SpellOut
