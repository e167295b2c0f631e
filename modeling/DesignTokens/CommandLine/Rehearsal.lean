import DesignTokens.CommandLine.Program
import DesignTokens.Store.Disk

namespace DesignTokens

/-- What a rehearsal works on, and what it has printed and asked so far. -/
structure Rehearsal where
  disk : Disk
  reply : Option Reply
  out : String
  questions : List Question

namespace Rehearsal

def start (disk : Disk) (reply : Option Reply) : Rehearsal := ⟨disk, reply, "", []⟩

def answer (r : Rehearsal) : Except String Reply :=
  match r.reply with
  | some reply => .ok reply
  | none => .error "no connection"

def session (here : Path) : Session (StateM Rehearsal) where
  read path := do return (← get).disk.readText (here.join path)
  write path contents := modifyGet fun r =>
    let (result, disk) := r.disk.writeText (here.join path) contents
    (result, { r with disk })
  ask question := modifyGet fun r => (r.answer, { r with questions := r.questions ++ [question] })
  print line := modify fun r => { r with out := r.out ++ line ++ "\n" }

def run (r : Rehearsal) (here : Path) (lookup : String → Option String)
    (arguments : List String) : Ending × Rehearsal :=
  Id.run ((Program.run (session here) lookup arguments).run r)

end Rehearsal

end DesignTokens
